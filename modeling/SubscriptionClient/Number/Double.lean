import SubscriptionClient.Number.Power

/-!
# Binary floating-point numbers

Doubles as exact values: a finite one is a sign, a mantissa and a binary exponent. `ofRatio` rounds
a quotient to the nearest double, ties to the even mantissa; the arithmetic that is needed here is
that rounding applied to exact results.
-/

namespace SubscriptionClient

/-- A double. A finite one is `± mantissa * 2 ^ exponent`; what rounding produces has a mantissa
below `2 ^ 53` and an exponent of at least `-1074`, and a mantissa of at least `2 ^ 52` unless the
exponent is `-1074`. -/
inductive Double where
  | nan
  | infinite (negative : Bool)
  | finite (negative : Bool) (mantissa : Nat) (exponent : Int)
  deriving DecidableEq, Inhabited

namespace Double

def roundHalfEven (n d : Nat) : Nat :=
  let q := n / d
  let r := n % d
  if 2 * r > d ∨ (2 * r = d ∧ q % 2 = 1) then q + 1 else q

/-- The quotient `n / d` divided by `2 ^ e`, as a numerator and a denominator. -/
def scale (n d : Nat) (e : Int) : Nat × Nat :=
  match e with
  | .ofNat k => (n, d * 2 ^ k)
  | .negSucc k => (n * 2 ^ (k + 1), d)

/-- The exponent that leaves fifty-three bits before the point, but never less than `-1074`. -/
def exponentOf (n d : Nat) : Int :=
  let bits : Int := (Nat.log2 n : Int) - (Nat.log2 d : Int)
  let s := scale n d bits
  max (if s.2 ≤ s.1 then bits - 52 else bits - 53) (-1074)

/-- The double nearest to `± n / d`. -/
def ofRatio (negative : Bool) (n d : Nat) : Double :=
  if n = 0 then finite negative 0 (-1074)
  else
    let e := exponentOf n d
    let s := scale n d e
    let m := roundHalfEven s.1 s.2
    let (m, e) := if m = 2 ^ 53 then (2 ^ 52, e + 1) else (m, e)
    if 971 < e then infinite negative
    else if m < 2 ^ 52 then finite negative m (-1074)
    else finite negative m e

/-- The double nearest to `± digits * 10 ^ exponent`. Exponents far outside the range of doubles
are decided without computing the power. -/
def ofDecimal (negative : Bool) (digits : Nat) (exponent : Int) : Double :=
  let adjusted : Int := exponent + (Nat.toDigits 10 digits).length
  if digits = 0 ∨ adjusted < -400 then finite negative 0 (-1074)
  else if 400 < adjusted then infinite negative
  else
    match exponent with
    | .ofNat k => ofRatio negative (digits * 10 ^ k) 1
    | .negSucc k => ofRatio negative digits (10 ^ (k + 1))

def ofInt (n : Int) : Double := ofRatio (decide (n < 0)) n.natAbs 1

/-- Numerator and denominator of a finite double. -/
def ratio? : Double → Option (Int × Nat)
  | nan | infinite _ => none
  | finite negative m e =>
    let n : Nat × Nat := match e with
      | .ofNat k => (m * 2 ^ k, 1)
      | .negSucc k => (m, 2 ^ (k + 1))
    some (if negative then -(n.1 : Int) else n.1, n.2)

/-- The integer that a double without fraction is. -/
def toInt? (x : Double) : Option Int :=
  match x.ratio? with
  | some (n, d) => if n % d = 0 then some (n / d) else none
  | none => none

end Double

end SubscriptionClient
