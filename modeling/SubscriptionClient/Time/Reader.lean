import SubscriptionClient.Number.Double
import SubscriptionClient.Number.Numeral
import SubscriptionClient.Time.DateTime

/-!
# Reading date-times

A date-time is read from ISO text, or from a number of seconds or milliseconds since the epoch.
Numbers beyond twenty thousand million are milliseconds.
-/

namespace SubscriptionClient.DateTime

/-! ## ISO text -/

/-- A number of exactly `width` ASCII digits, and what follows it. -/
def fixedDigits? (width : Nat) (t : Text) : Option (Nat × Text) := do
  let head := t.take width
  if head.length = width then
    let ds ← head.mapM Numeral.asciiValue?
    return (Numeral.ofDigits 10 ds, t.drop width)
  else none

def after? (c : Char) : Text → Option Text
  | d :: rest => if d = CodePoint.ofChar c then some rest else none
  | [] => none

def readDate? (t : Text) : Option (Date × Text) := do
  let (year, t) ← fixedDigits? 4 t
  let t ← after? '-' t
  let (month, t) ← fixedDigits? 2 t
  let t ← after? '-' t
  let (day, t) ← fixedDigits? 2 t
  let date : Date := ⟨year, month, day⟩
  if date.IsValid then some (date, t) else none

/-- Up to six digits of a fraction, as microseconds; further digits are dropped. -/
def fractionMicros (ds : List Nat) : Nat :=
  Numeral.ofDigits 10 (ds.take 6) * 10 ^ (6 - (ds.take 6).length)

/-- Seconds with an optional fraction after a point or a comma. -/
def readSeconds? (t : Text) : Option (Nat × Text) := do
  let (second, t) ← fixedDigits? 2 t
  if 60 ≤ second then none
  else match t with
    | c :: rest =>
      if c = CodePoint.ofChar '.' ∨ c = CodePoint.ofChar ',' then
        let (digits, rest) := Numeral.asciiRun rest
        if digits = [] then none
        else do
          let ds ← digits.mapM Numeral.asciiValue?
          return (second * microsPerSecond + fractionMicros ds, rest)
      else some (second * microsPerSecond, c :: rest)
    | [] => some (second * microsPerSecond, [])

def readClock? (t : Text) : Option (Nat × Text) := do
  let (hour, t) ← fixedDigits? 2 t
  let t ← after? ':' t
  let (minute, t) ← fixedDigits? 2 t
  if 24 ≤ hour ∨ 60 ≤ minute then none
  else
    let micros := (hour * 60 + minute) * 60 * microsPerSecond
    match after? ':' t with
    | some rest => (readSeconds? rest).map fun (s, rest) => (micros + s, rest)
    | none => some (micros, t)

/-- The sign of an offset; the mathematical minus sign counts. -/
def offsetSign? (c : CodePoint) : Option Int :=
  if c = CodePoint.ofChar '+' then some 1
  else if c = CodePoint.ofChar '-' ∨ c.val = 0x2212 then some (-1)
  else none

/-- The offset that ends a text: nothing, `Z`, or a sign with hours and minutes below a day. -/
def readOffset? : Text → Option (Option Int)
  | [] => some none
  | c :: rest =>
    if c = CodePoint.ofChar 'Z' ∨ c = CodePoint.ofChar 'z' then
      if rest = [] then some (some 0) else none
    else do
      let sign ← offsetSign? c
      let (hour, rest) ← fixedDigits? 2 rest
      let (minute, rest) ← fixedDigits? 2 ((after? ':' rest).getD rest)
      if rest = [] ∧ hour < 24 ∧ minute < 60 then
        some (some (sign * ((hour * 60 + minute) * 60 * microsPerSecond : Nat)))
      else none

def isSeparator (c : CodePoint) : Bool :=
  c = CodePoint.ofChar 'T' || c = CodePoint.ofChar 't' || c = CodePoint.ofChar ' ' ||
    c = CodePoint.ofChar '_'

/-- A date alone is its midnight, naive. -/
def readIso? (t : Text) : Option DateTime := do
  let (date, t) ← readDate? t
  match t with
  | [] => some ⟨date, 0, none⟩
  | c :: rest =>
    if isSeparator c then do
      let (clock, rest) ← readClock? rest
      let offset ← readOffset? rest
      return ⟨date, clock, offset⟩
    else none

/-! ## Timestamps -/

/-- Larger timestamps count milliseconds. -/
def secondsLimit : Nat := 20000000000

def microsOfWhole (n : Int) : Int :=
  if n.natAbs ≤ secondsLimit then n * microsPerSecond else n * 1000

def ofIntTimestamp? (n : Int) : Option DateTime := ofEpochMicros? (microsOfWhole n)

/-- The quotient rounded to the nearest natural number, ties upwards. -/
def roundHalfUp (n d : Nat) : Nat := (2 * n + d) / (2 * d)

/-- The double nearest to `n / d` times a number of units, rounded to whole units. -/
def roundedUnits? (n d units : Nat) : Option Nat := do
  let (m, e) ← (Double.ofRatio false (n * units) d).ratio?
  return roundHalfUp m.toNat e

/-- A timestamp with a fraction. The digits after the point are added to the greatest whole
timestamp that is not above, also when the timestamp is negative; beyond the limit they are digits
of a millisecond. -/
def ofDoubleTimestamp? (x : Double) : Option DateTime := do
  let (n, d) ← x.ratio?
  let units := if n.natAbs ≤ secondsLimit * d then microsPerSecond else 1000
  let rest ← roundedUnits? (n.natAbs % d) d units
  ofEpochMicros? (microsOfWhole (n / d) + rest)

def thousandth (x : Double) : Double :=
  match x.ratio? with
  | some (n, d) => .ofRatio (decide (n < 0)) n.natAbs (d * 1000)
  | none => x

/-- The timestamp that a written number with a point stands for. Beyond the limit it is first
divided by a thousand; what lies above the greatest whole number of seconds counts in microseconds,
and those seconds are a whole timestamp again. -/
def ofWrittenTimestamp? (x : Double) : Option DateTime := do
  let (n, d) ← x.ratio?
  let (m, e) ← (if n.natAbs ≤ secondsLimit * d then x else thousandth x).ratio?
  let (r, f) ← (Double.ofRatio false (m % e).toNat e).ratio?
  let rest ← roundedUnits? r.toNat f microsPerSecond
  ofEpochMicros? (microsOfWhole (m / e) + rest)

/-- The exponent of ten that ends a number, or zero when there is none. -/
def readExponent? : Text → Option Int
  | [] => some 0
  | c :: cs =>
    if c = CodePoint.ofChar 'e' ∨ c = CodePoint.ofChar 'E' then do
      let (negative, rest) := Numeral.readSign cs
      let digits ← rest.mapM Numeral.asciiValue?
      if digits = [] then none else some (Numeral.signed negative (Numeral.ofDigits 10 digits))
    else none

/-- A whole timestamp in decimal. It is counted in a word of sixty-four bits, in which numerals that
differ by a multiple of `2 ^ 64` are one number. -/
def ofWholeTimestamp? (negative : Bool) (n : Nat) : Option DateTime :=
  ofIntTimestamp? ((Numeral.signed negative n).bmod (2 ^ 64))

/-- A timestamp in decimal: a sign and digits, and perhaps a point with more digits and an
exponent. -/
def ofTimestampText? (t : Text) : Option DateTime := do
  let (negative, rest) := Numeral.readSign t
  let (whole, rest) := Numeral.asciiRun rest
  let ds ← whole.mapM Numeral.asciiValue?
  match after? '.' rest with
  | none =>
    if whole ≠ [] ∧ rest = [] then ofWholeTimestamp? negative (Numeral.ofDigits 10 ds) else none
  | some rest =>
    let (fraction, rest) := Numeral.asciiRun rest
    let fs ← fraction.mapM Numeral.asciiValue?
    let e ← readExponent? rest
    if ds ++ fs ≠ [] then
      ofWrittenTimestamp?
        (Double.ofDecimal negative (Numeral.ofDigits 10 (ds ++ fs)) (e - fs.length))
    else none

def read? (t : Text) : Option DateTime := (readIso? t).or (ofTimestampText? t)

end SubscriptionClient.DateTime
