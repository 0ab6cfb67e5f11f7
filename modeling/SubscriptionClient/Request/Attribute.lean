import SubscriptionClient.Value.Basic

/-!
# Subscriber attributes

An attribute is sent with the time it was set, in whole milliseconds. The time goes through seconds
as a double, which is then multiplied by a thousand and cut off.
-/

namespace SubscriptionClient

structure Attribute where
  key : Text
  value : Value
  /-- Microseconds from the epoch. -/
  setTime : Int

namespace Attribute

/-- The double nearest to a number of microseconds, in seconds. -/
def secondsOfMicros (n : Int) : Double :=
  .ofRatio (decide (n < 0)) n.natAbs DateTime.microsPerSecond

def timesThousand (x : Double) : Double :=
  match x.ratio? with
  | some (n, d) => .ofRatio (decide (n < 0)) (n.natAbs * 1000) d
  | none => x

def truncate (x : Double) : Int :=
  match x.ratio? with
  | some (n, d) => n.tdiv d
  | none => 0

/-- The milliseconds that stand for a time of `n` microseconds. -/
def millisOfMicros (n : Int) : Int := truncate (timesThousand (secondsOfMicros n))

def toValue (a : Attribute) : Value :=
  .record [("value", a.value), ("updated_at_ms", .int (millisOfMicros a.setTime))]

end Attribute

abbrev Attributes := List (Text × Attribute)

namespace Attributes

def toValue (as : Attributes) : Value := .map (as.map fun a => (.text a.1, a.2.toValue))

end Attributes

end SubscriptionClient
