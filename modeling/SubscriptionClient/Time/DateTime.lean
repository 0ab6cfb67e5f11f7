import SubscriptionClient.Text.Basic
import SubscriptionClient.Time.Calendar

/-!
# Dates with a time of day

A date-time is aware when it carries an offset from UTC and naive otherwise. Offsets are fixed: none
depends on the date, as that of a time zone would. Two aware ones are ordered as instants, two naive
ones by their clocks, and a mixture has no order.
-/

namespace SubscriptionClient

structure DateTime where
  date : Date
  /-- Microseconds since midnight. -/
  clock : Nat
  /-- Microseconds east of UTC; a naive date-time has none. -/
  offset : Option Int
  deriving DecidableEq, Inhabited

namespace DateTime

def microsPerSecond : Nat := 1000000

def microsPerDay : Nat := 86400 * microsPerSecond

def wallMicros (t : DateTime) : Int := t.date.dayNumber * microsPerDay + t.clock

def instant? (t : DateTime) : Option Int :=
  t.offset.map fun east => t.wallMicros - east

/-- Whether `t` is strictly later than `u`; `none` when one is naive and the other aware. -/
def later? (t u : DateTime) : Option Bool :=
  match t.instant?, u.instant? with
  | some x, some y => some (decide (y < x))
  | none, none => some (decide (u.wallMicros < t.wallMicros))
  | _, _ => none

/-- Equality as moments: a naive date-time never equals an aware one. -/
def sameMoment (t u : DateTime) : Bool :=
  match t.instant?, u.instant? with
  | some x, some y => decide (x = y)
  | none, none => decide (t.wallMicros = u.wallMicros)
  | _, _ => false

/-- The UTC date-time of a number of microseconds from the epoch, in the years 1 to 9999. -/
def ofEpochMicros? (n : Int) : Option DateTime :=
  let days := n / (microsPerDay : Int)
  if (Date.mk 1 1 1).dayNumber ≤ days ∧ days ≤ (Date.mk 9999 12 31).dayNumber then
    some ⟨Date.ofDayNumber days, (n % (microsPerDay : Int)).toNat, some 0⟩
  else none

/-! ## Text -/

def hour (t : DateTime) : Nat := t.clock / (3600 * microsPerSecond)

def minute (t : DateTime) : Nat := t.clock / (60 * microsPerSecond) % 60

def second (t : DateTime) : Nat := t.clock / microsPerSecond % 60

def microsecond (t : DateTime) : Nat := t.clock % microsPerSecond

def colon : Text := ":".toText

def dateText (d : Date) : Text :=
  Text.ofNatPadded 4 d.year ++ "-".toText ++ Text.ofNatPadded 2 d.month ++ "-".toText ++
    Text.ofNatPadded 2 d.day

/-- Microseconds after a second, if there are any. -/
def microsText (micros : Nat) : Text :=
  if micros = 0 then [] else ".".toText ++ Text.ofNatPadded 6 micros

def clockText (t : DateTime) : Text :=
  Text.ofNatPadded 2 t.hour ++ colon ++ Text.ofNatPadded 2 t.minute ++ colon ++
    Text.ofNatPadded 2 t.second ++ microsText t.microsecond

/-- Hours and minutes; seconds only when they are not whole minutes. -/
def offsetText (east : Int) : Text :=
  let minutes := east.natAbs / (60 * microsPerSecond)
  let micros := east.natAbs % (60 * microsPerSecond)
  (if east < 0 then "-" else "+").toText ++ Text.ofNatPadded 2 (minutes / 60) ++ colon ++
    Text.ofNatPadded 2 (minutes % 60) ++
      if micros = 0 then []
      else colon ++ Text.ofNatPadded 2 (micros / microsPerSecond) ++
        microsText (micros % microsPerSecond)

/-- The ISO form with a given text between date and time. -/
def isoText (separator : Text) (t : DateTime) : Text :=
  dateText t.date ++ separator ++ t.clockText ++ (t.offset.map offsetText).getD []

def text (t : DateTime) : Text := t.isoText "T".toText

def spacedText (t : DateTime) : Text := t.isoText " ".toText

end DateTime

end SubscriptionClient
