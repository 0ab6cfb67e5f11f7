import SubscriptionClient.Body.Contracts

/-!
# Customer info

What the backend knows of a subscriber: entitlements, subscriptions and single purchases, as of a
request date. An entitlement without an end date never expires.
-/

namespace SubscriptionClient

structure Entitlement where
  identifier : Text
  productIdentifier : Text
  purchaseDate : Option DateTime
  expiresDate : Option DateTime
  gracePeriodExpiresDate : Option DateTime
  deriving DecidableEq

namespace Entitlement

/-- The end of the grace period, or else the expiry. -/
def effectiveExpiry (e : Entitlement) : Option DateTime :=
  e.gracePeriodExpiresDate.or e.expiresDate

/-- Whether the entitlement is active at a moment, if its end compares with the moment at all. -/
def isActiveAt? (e : Entitlement) (moment : DateTime) : Option Bool :=
  match e.effectiveExpiry with
  | none => some true
  | some expiry => expiry.later? moment

end Entitlement

structure Transaction where
  transactionIdentifier : Text
  productIdentifier : Text
  purchaseDate : DateTime
  deriving DecidableEq

structure CustomerInfo where
  requestDate : DateTime
  originalAppUserId : Text
  firstSeen : DateTime
  originalApplicationVersion : Option Text
  originalPurchaseDate : Option DateTime
  managementUrl : Option Text
  entitlements : List (Text × Entitlement)
  expirationDates : List (Text × Option DateTime)
  purchaseDates : List (Text × Option DateTime)
  transactions : List Transaction
  raw : List (Value × Value)

namespace CustomerInfo

/-- The members of a list that pass a test which may fail to answer. -/
def select? {α : Type} (test : α → Option Bool) : List α → Option (List α)
  | [] => some []
  | a :: as => do
    let keep ← test a
    let rest ← select? test as
    return if keep then a :: rest else rest

/-- The entitlements active at the request date; none at all when one of them has an end that does
not compare with it. -/
def activeEntitlements? (c : CustomerInfo) : Option (List (Text × Entitlement)) :=
  select? (fun e => e.2.isActiveAt? c.requestDate) c.entitlements

/-- Whether a product with this expiry is active; without an expiry it is not. -/
def subscriptionActive? (moment : DateTime) : Option DateTime → Option Bool
  | none => some false
  | some expiry => expiry.later? moment

def activeSubscriptions? (c : CustomerInfo) : Option (List Text) :=
  (select? (fun e => subscriptionActive? c.requestDate e.2) c.expirationDates).map
    (·.map Prod.fst)

/-! ## From a decoded body -/

def entitlementOfRecord (key : Text) : Body.entitlement.Denotes → Entitlement
  | (product, purchase, expires, grace, ()) => ⟨key, product, purchase, expires, grace⟩

/-- The purchase and expiry dates of a subscription. -/
def datesOfRecord : Body.subscription.Denotes → Option DateTime × Option DateTime
  | (purchase, _, expires, _, _, _, _, _, _, ()) => (purchase, expires)

def transactionOfRecord (product : Text) :
    Body.nonSubscriptionTransaction.Denotes → Transaction
  | (id, purchase, _, _, ()) => ⟨id, product, purchase⟩

/-- Customer info from a decoded body and the members it was decoded from. -/
def ofRecord (raw : List (Value × Value)) : Body.customerInfo.Denotes → CustomerInfo
  | (requestDate, _,
      (userId, firstSeen, version, purchaseDate, url, entitlements, subscriptions, purchases, ()),
      ()) =>
    { requestDate
      originalAppUserId := userId
      firstSeen
      originalApplicationVersion := version
      originalPurchaseDate := purchaseDate
      managementUrl := url
      entitlements := entitlements.map fun e => (e.1, entitlementOfRecord e.1 e.2)
      expirationDates := subscriptions.map fun s => (s.1, (datesOfRecord s.2).2)
      purchaseDates := subscriptions.map fun s => (s.1, (datesOfRecord s.2).1)
      transactions := purchases.flatMap fun p => p.2.map (transactionOfRecord p.1)
      raw }

def decode (body : Value) : Decoded CustomerInfo :=
  (Body.customerInfo.decode body).map (ofRecord body.members)

end CustomerInfo

end SubscriptionClient
