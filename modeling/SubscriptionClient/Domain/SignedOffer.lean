import SubscriptionClient.Body.Contracts
import SubscriptionClient.Domain.Uuid

/-!
# Signed offers

The signature of a promotional offer. Every part may be missing.
-/

namespace SubscriptionClient

structure SignedOffer where
  signature : Option Text
  keyId : Option Text
  nonce : Option Uuid
  timestamp : Option Int
  deriving DecidableEq

namespace SignedOffer

def ofRecord (keyId : Option Text) : Body.signatureData.Denotes → SignedOffer
  | (signature, nonce, timestamp, ()) => ⟨signature, keyId, nonce.bind Uuid.read?, timestamp⟩

/-- The text of a value that is text. -/
def textOf? : Option Value → Option Text
  | some (.text t) => some t
  | _ => none

def decode (keyId : Option Value) (data : Value) : Decoded SignedOffer :=
  (Body.signatureData.decode data).map (ofRecord (textOf? keyId))

end SignedOffer

end SubscriptionClient
