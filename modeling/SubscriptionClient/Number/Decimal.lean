import SubscriptionClient.Number.Double
import SubscriptionClient.Number.Numeral

/-!
# Decimal numbers

Exact decimals, as prices are given. Trailing zeros and the exponent are part of the number, so
`1.10` and `1.1` have different texts.
-/

namespace SubscriptionClient

inductive Decimal where
  | finite (negative : Bool) (coefficient : Nat) (exponent : Int)
  | infinite (negative : Bool)
  | nan (negative signaling : Bool) (payload : Option Nat)
  deriving DecidableEq, Inhabited

namespace Decimal

def isSignaling : Decimal → Bool
  | nan _ true _ => true
  | _ => false

def signText (negative : Bool) : Text := if negative then "-".toText else []

/-- The exponent of a scientific form, with its sign. -/
def exponentText (e : Int) : Text :=
  if e < 0 then "E-".toText ++ Text.ofNat e.natAbs else "E+".toText ++ Text.ofNat e.natAbs

/-- Positional unless the exponent is positive or more than five zeros would follow the point. -/
def text : Decimal → Text
  | infinite negative => signText negative ++ "Infinity".toText
  | nan negative signaling payload =>
    signText negative ++ (if signaling then "sNaN" else "NaN").toText ++
      (payload.map Text.ofNat).getD []
  | finite negative coefficient exponent =>
    let digits := Text.ofNat coefficient
    let left : Int := exponent + digits.length
    let point : Int := if exponent ≤ 0 ∧ -6 < left then left else 1
    let number :=
      if point ≤ 0 then
        "0.".toText ++ List.replicate point.natAbs (CodePoint.ofChar '0') ++ digits
      else if digits.length ≤ point.toNat then
        digits ++ List.replicate (point.toNat - digits.length) (CodePoint.ofChar '0')
      else digits.take point.toNat ++ ".".toText ++ digits.drop point.toNat
    signText negative ++ number ++ (if left = point then [] else exponentText (left - point))

def toDouble? : Decimal → Option Double
  | finite negative coefficient exponent => some (.ofDecimal negative coefficient exponent)
  | infinite negative => some (.infinite negative)
  | nan _ false _ => some .nan
  | nan _ true _ => none

/-- The integer that a finite decimal without fraction is. -/
def toInt? : Decimal → Option Int
  | finite negative coefficient exponent =>
    let n : Option Nat := match exponent with
      | .ofNat k => some (coefficient * 10 ^ k)
      | .negSucc k =>
        if coefficient % 10 ^ (k + 1) = 0 then some (coefficient / 10 ^ (k + 1)) else none
    n.map (Numeral.signed negative)
  | _ => none

def isFinite : Decimal → Bool
  | finite _ _ _ => true
  | _ => false

/-! ## Reading -/

/-- The greatest exponent of the leading digit that a decimal may have. -/
def greatestExponent : Int := 10 ^ 18 - 1

/-- The least exponent of the last digit that a decimal may have. -/
def leastExponent : Int := -(2 * 10 ^ 18 - 3)

/-- The finite decimal with these parts, if they are in range. -/
def bounded? (negative : Bool) (coefficient : Nat) (exponent : Int) : Option Decimal :=
  let leading : Int := exponent + (Nat.toDigits 10 coefficient).length - 1
  if leading ≤ greatestExponent ∧ leastExponent ≤ exponent then
    some (finite negative coefficient exponent)
  else none

def lowerAscii (c : CodePoint) : CodePoint :=
  if 65 ≤ c.val ∧ c.val ≤ 90 then Fin.ofNat _ (c.val + 32) else c

def readFraction : Text → List Nat × Text
  | c :: cs => if c = CodePoint.ofChar '.' then Numeral.digitRun cs else ([], c :: cs)
  | [] => ([], [])

def readExponent? : Text → Option Int
  | [] => some 0
  | c :: cs =>
    if lowerAscii c = CodePoint.ofChar 'e' then
      let (negative, rest) := Numeral.readSign cs
      match Numeral.digitRun rest with
      | (d :: ds, []) =>
        let n : Int := Numeral.ofDigits 10 (d :: ds)
        some (if negative then -n else n)
      | _ => none
    else none

def readNumber? (negative : Bool) (t : Text) : Option Decimal :=
  let (whole, rest) := Numeral.digitRun t
  let (fraction, rest) := readFraction rest
  if whole = [] ∧ fraction = [] then none
  else (readExponent? rest).bind fun e =>
    bounded? negative (Numeral.ofDigits 10 (whole ++ fraction)) (e - fraction.length)

def readPayload? (negative signaling : Bool) (t : Text) : Option Decimal :=
  match Numeral.digitRun t with
  | ([], []) => some (nan negative signaling none)
  | (ds, []) =>
    let n := Numeral.ofDigits 10 ds
    some (nan negative signaling (if n = 0 then none else some n))
  | _ => none

/-- Reads a numeral, an infinity or a NaN with optional diagnostic digits, in any case; blanks at
either end and underscores do not count. -/
def read? (t : Text) : Option Decimal :=
  let (negative, rest) := Numeral.readSign (t.strip.filter (· ≠ CodePoint.ofChar '_'))
  let lower := rest.map lowerAscii
  if lower = "inf".toText ∨ lower = "infinity".toText then some (infinite negative)
  else if "nan".toText.isPrefixOf lower then readPayload? negative false (rest.drop 3)
  else if "snan".toText.isPrefixOf lower then readPayload? negative true (rest.drop 4)
  else readNumber? negative rest

end Decimal

end SubscriptionClient
