/-!
# Powers

A power of a number is repeated multiplication in the number type itself, whatever algebra is in
scope.
-/

namespace SubscriptionClient

@[default_instance 10001]
instance (priority := 1100) powNat {α : Type} [NatPow α] : Pow α Nat := instPowNat

end SubscriptionClient
