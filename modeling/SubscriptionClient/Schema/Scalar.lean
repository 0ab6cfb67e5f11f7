import SubscriptionClient.Schema.Issue
import SubscriptionClient.Text.Utf8
import SubscriptionClient.Time.Reader

/-!
# Lax scalars

Scalars of a body may come in several forms: numbers as text, dates as timestamps, truth values as
words, text as UTF-8. Each reader here accepts the forms of one scalar.
-/

namespace SubscriptionClient.Scalar

/-- Text as it stands, or from its UTF-8 bytes. -/
def text : Value → Decoded Text
  | .text t => .ok t
  | .bytes bs => match Utf8.decode? bs with
    | some t => .ok t
    | none => .fail .textUnreadable
  | _ => .fail .textExpected

/-- The text that a scalar of another kind is written as; it may hold no surrogate. -/
def written (expected unreadable : IssueKind) : Value → Decoded Text
  | .text t => if t.any CodePoint.isSurrogate then .fail .textUnreadable else .ok t
  | .bytes bs => match Utf8.decode? bs with
    | some t => .ok t
    | none => .fail unreadable
  | _ => .fail expected

def fitsWord (n : Int) : Bool := decide (-(2 ^ 63) ≤ n ∧ n < 2 ^ 63)

/-! ## Integers -/

def zero : CodePoint := CodePoint.ofChar '0'

def underscore : CodePoint := CodePoint.ofChar '_'

def point : CodePoint := CodePoint.ofChar '.'

def minus : CodePoint := CodePoint.ofChar '-'

def readMinus : Text → Bool × Text
  | c :: cs => if c = minus then (true, cs) else (false, c :: cs)
  | [] => (false, [])

/-- A numeral in plain form: digits without a leading zero, and perhaps a minus sign, which counts
towards the length. -/
def plainInteger (t : Text) : Decoded Int :=
  let (negative, rest) := readMinus t
  let (digits, tail) := Numeral.asciiRun rest
  if digits.head? = some zero then
    if rest = [zero] then .ok 0 else .fail .integerUnreadable
  else if digits ≠ [] ∧ Numeral.digitLimit < digits.length + (if negative then 1 else 0) then
    .fail .integerTooLong
  else match digits.mapM Numeral.asciiValue?, tail with
    | some (d :: ds), [] => .ok (Numeral.signed negative (Numeral.ofDigits 10 (d :: ds)))
    | _, _ => .fail .integerUnreadable

/-- Drops the zeros and underscores before a digit or a minus sign. The last of them stays before a
point and at the end. -/
def dropZeros? (last : CodePoint) : Text → Option Text
  | [] => some [last]
  | c :: cs =>
    if c = zero ∨ c = underscore then dropZeros? c cs
    else if c = point then some (last :: c :: cs)
    else if c.isAsciiDigit ∨ c = minus then some (c :: cs)
    else none

/-- A numeral from its first digit on that matters. -/
def significant? : Text → Option Text
  | c :: cs =>
    if c = zero then dropZeros? c cs
    else if c.isAsciiDigit ∨ c = minus then some (c :: cs)
    else none
  | [] => none

/-- A numeral without a point and zeros at its end. -/
def beforeZeros (t : Text) : Text :=
  match t.dropWhile (· ≠ point) with
  | _ :: z :: zs => if (z :: zs).all (· == zero) then t.takeWhile (· ≠ point) else t
  | _ => t

/-- A numeral without its underscores, if they only stand alone and inside. -/
def ungrouped (t : Text) : Text :=
  let alone := (t.zip t.tail).all fun p => !(p.1 == underscore && p.2 == underscore)
  if alone && t.head? != some underscore && t.getLast? != some underscore then
    t.filter (· ≠ underscore)
  else t

/-- The plain form of a numeral: no blanks around it, no plus sign, no zeros at either end that do
not matter, and no underscores. -/
def plainForm? (t : Text) : Option Text := do
  let trimmed := t.trim CodePoint.isWhiteSpace
  let unsigned ← match trimmed with
    | c :: cs =>
      if c = CodePoint.ofChar '+' then if cs.head? = some minus then none else some cs
      else some (c :: cs)
    | [] => none
  let (negative, rest) := readMinus unsigned
  let digits ← significant? rest
  let plain := ungrouped (beforeZeros digits)
  return if negative then minus :: plain else plain

/-- An integer from a numeral that is plain or has a plain form. -/
def integerOfText (t : Text) : Decoded Int :=
  match plainInteger t with
  | .ok n => .ok n
  | .error issues =>
    if issues.any (·.kind = .integerTooLong) then .error issues
    else match (plainForm? t).map plainInteger with
      | some (.ok n) => .ok n
      | _ => .fail .integerUnreadable

/-- A double without fraction is an integer when it lies strictly between the ends of sixty-four
bits. -/
def integerOfDouble (x : Double) : Decoded Int :=
  match x.ratio?, x.toInt? with
  | none, _ => .fail .numberNotFinite
  | some _, some n =>
    if -(2 ^ 63) < n ∧ n < 2 ^ 63 then .ok n else .fail .integerTooLong
  | some _, none => .fail .integerHasFraction

def integerOfDecimal (d : Decimal) : Decoded Int :=
  if d.isFinite then
    match d.toInt? with
    | some n => .ok n
    | none => .fail .integerHasFraction
  else .fail .numberNotFinite

def integer : Value → Decoded Int
  | .int n => .ok n
  | .bool b => .ok (if b then 1 else 0)
  | .float x => integerOfDouble x
  | .decimal d => integerOfDecimal d
  | v => (written .integerExpected .integerUnreadable v).bind integerOfText

/-! ## Truth values -/

def falseWords : List Text :=
  ["0", "off", "f", "false", "n", "no"].map String.toText

def trueWords : List Text :=
  ["1", "on", "t", "true", "y", "yes"].map String.toText

def booleanOfText (t : Text) : Decoded Bool :=
  let word := t.map Decimal.lowerAscii
  if word ∈ falseWords then .ok false
  else if word ∈ trueWords then .ok true
  else .fail .booleanUnreadable

/-- Only zero and one; an integer beyond sixty-four bits is not even a candidate. -/
def booleanOfInt (n : Int) : Decoded Bool :=
  if n = 0 then .ok false
  else if n = 1 then .ok true
  else if fitsWord n then .fail .booleanUnreadable
  else .fail .booleanExpected

def booleanOfDouble (x : Double) : Decoded Bool :=
  match integerOfDouble x with
  | .ok n => booleanOfInt n
  | .error _ => .fail .booleanExpected

def boolean : Value → Decoded Bool
  | .bool b => .ok b
  | .int n => booleanOfInt n
  | .float x => booleanOfDouble x
  | .decimal d => match d.toDouble? with
    | some x => booleanOfDouble x
    | none => .fail .booleanExpected
  | v => (written .booleanExpected .booleanUnreadable v).bind booleanOfText

/-! ## Date-times -/

def orUnreadable (t? : Option DateTime) : Decoded DateTime :=
  match t? with
  | some t => .ok t
  | none => .fail .dateTimeUnreadable

/-- An integer that no double comes near is no timestamp at all. -/
def dateTimeOfInt (n : Int) : Decoded DateTime :=
  if fitsWord n then orUnreadable (DateTime.ofIntTimestamp? n)
  else match Double.ofInt n with
    | .infinite _ => .fail .dateTimeExpected
    | x => orUnreadable (DateTime.ofDoubleTimestamp? x)

def dateTime : Value → Decoded DateTime
  | .dateTime t => .ok t
  | .int n => dateTimeOfInt n
  | .float x => orUnreadable (DateTime.ofDoubleTimestamp? x)
  | .decimal d => match d.toDouble? with
    | some x => orUnreadable (DateTime.ofDoubleTimestamp? x)
    | none => .fail .dateTimeExpected
  | v => (written .dateTimeExpected .dateTimeUnreadable v).bind fun t =>
    orUnreadable (DateTime.read? t)

end SubscriptionClient.Scalar
