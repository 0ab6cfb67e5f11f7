import SubscriptionClient.Value.Order

/-!
# End dates as values

Whether something is active can be asked of any two end dates and any moment that values can be; the
answer exists when the end that counts compares with the moment.
-/

namespace SubscriptionClient.Expiry

/-- The end that counts: that of the grace period if there is one, or else the expiry. -/
def effective (expires grace : Value) : Value := if grace.toBool then grace else expires

/-- Without an end the answer is yes; otherwise the moment has to come before the end. -/
def isActiveAt? (expires grace moment : Value) : Except Misuse Bool :=
  let expiry := effective expires grace
  if expiry.isNull then .ok true else moment.before? expiry

end SubscriptionClient.Expiry
