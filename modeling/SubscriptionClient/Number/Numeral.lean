import SubscriptionClient.Number.Power
import SubscriptionClient.Text.Blank
import SubscriptionClient.Text.Digit
import SubscriptionClient.Text.Hex

/-!
# Integer numerals

Reading integers from text: an optional sign, then digits of any script, single underscores allowed
between them, blanks allowed around the whole. Decimal numerals are limited in length, when they are
read and when they are written.
-/

namespace SubscriptionClient.Numeral

/-- No decimal numeral has more digits than this. -/
def digitLimit : Nat := 4300

def ofDigits (base : Nat) (ds : List Nat) : Nat := ds.foldl (fun n d => n * base + d) 0

/-- The longest run of decimal digits at the start, and what follows it. -/
def digitRun : Text → List Nat × Text
  | [] => ([], [])
  | c :: cs =>
    match c.decimalValue? with
    | some d => let (ds, rest) := digitRun cs; (d :: ds, rest)
    | none => ([], c :: cs)

/-- The run of ASCII digits at the start, and what follows it. -/
def asciiRun (t : Text) : Text × Text :=
  (t.takeWhile (·.isAsciiDigit), t.dropWhile (·.isAsciiDigit))

def asciiValue? (c : CodePoint) : Option Nat :=
  if c.isAsciiDigit then some (c.val - 48) else none

def readSign : Text → Bool × Text
  | c :: cs =>
    if c = CodePoint.ofChar '-' then (true, cs)
    else if c = CodePoint.ofChar '+' then (false, cs)
    else (false, c :: cs)
  | [] => (false, [])

def signed (negative : Bool) (n : Nat) : Int := if negative then -(n : Int) else n

/-- The digits of a whole text, in which single underscores may stand between digits. -/
def groupedDigits? (value : CodePoint → Option Nat) : Text → Option (List Nat)
  | [] => none
  | [c] => (value c).map ([·])
  | c :: u :: rest => do
    let d ← value c
    let ds ← if u = CodePoint.ofChar '_' then groupedDigits? value rest
      else groupedDigits? value (u :: rest)
    return d :: ds

/-- A decimal integer of at most `digitLimit` digits, with white space around it. -/
def decimal? (t : Text) : Option Int := do
  let (negative, rest) := readSign (t.trim CodePoint.isWhiteSpace)
  let ds ← groupedDigits? CodePoint.decimalValue? rest
  if ds.length ≤ digitLimit then some (signed negative (ofDigits 10 ds)) else none

/-- Whether the numeral of an integer keeps to the limit. A sign does not count. -/
def isWritable (n : Int) : Bool := decide ((Text.ofNat n.natAbs).length ≤ digitLimit)

/-- The decimal numeral of an integer, unless it has too many digits. -/
def write? (n : Int) : Option Text := if isWritable n then some (Text.ofInt n) else none

/-- A hexadecimal digit; decimal digits may be of any script. -/
def hexValue? (c : CodePoint) : Option Nat := c.decimalValue?.or (Hex.digitValue? c)

/-- The text after the mark of a hexadecimal numeral and one underscore, if they are there. -/
def dropHexMark : Text → Text
  | z :: x :: rest =>
    if z.decimalValue? = some 0 ∧ (x = CodePoint.ofChar 'x' ∨ x = CodePoint.ofChar 'X') then
      match rest with
      | u :: rest => if u = CodePoint.ofChar '_' then rest else u :: rest
      | [] => []
    else z :: x :: rest
  | t => t

def hexadecimal? (t : Text) : Option Int := do
  let (negative, rest) := readSign (t.trim CodePoint.isWhiteSpace)
  let ds ← groupedDigits? hexValue? (dropHexMark rest)
  return signed negative (ofDigits 16 ds)

end SubscriptionClient.Numeral
