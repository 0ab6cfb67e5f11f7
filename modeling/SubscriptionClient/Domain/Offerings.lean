import SubscriptionClient.Body.Contracts

/-!
# Offerings

The packages that a subscriber can be offered, grouped into offerings, one of which may be current.
-/

namespace SubscriptionClient

structure Package where
  identifier : Text
  platformProductIdentifier : Text
  deriving DecidableEq

structure Offering where
  identifier : Text
  description : Text
  packages : List Package
  deriving DecidableEq

structure Offerings where
  currentOfferingId : Option Text
  offerings : List Offering
  raw : List (Value × Value)

namespace Offerings

/-- The first offering with the current identifier. -/
def current? (o : Offerings) : Option Offering :=
  o.offerings.find? fun offering => some offering.identifier == o.currentOfferingId

def packageOfRecord : Body.package.Denotes → Package
  | (identifier, product, ()) => ⟨identifier, product⟩

def offeringOfRecord : Body.offering.Denotes → Offering
  | (identifier, description, packages, ()) =>
    ⟨identifier, description, packages.map packageOfRecord⟩

def ofRecord (raw : List (Value × Value)) : Body.offerings.Denotes → Offerings
  | (current, offerings, ()) => ⟨current, offerings.map offeringOfRecord, raw⟩

def decode (body : Value) : Decoded Offerings :=
  (Body.offerings.decode body).map (ofRecord body.members)

end Offerings

end SubscriptionClient
