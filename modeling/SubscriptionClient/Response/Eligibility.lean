import SubscriptionClient.Domain.Eligibility
import SubscriptionClient.Response.Basic

/-!
# Answers on intro eligibility

A failed request leaves every product unknown; so does a body that says nothing of it.
-/

namespace SubscriptionClient.Response

/-- Product identifiers serve as keys. -/
def checkKeys (products : List Value) : Attempt Unit :=
  match products.find? fun p => !p.isKey with
  | some p => .error (.misuse (.unusableKey p))
  | none => .ok ()

def unknownEligibilities (products : List Value) : Attempt (List (Value × Eligibility)) := do
  checkKeys products
  return Eligibility.ofProducts (fun _ => .unknown) products

def introEligibility (products : List Value) (r : Response) :
    Attempt (List (Value × Eligibility)) := do
  let failed ← match r.failure with
    | some _ => pure true
    | none => (Status.isSuccess? r.status).map (!·)
  if failed then unknownEligibilities products
  else
    match r.body with
    | .map members => do
      checkKeys products
      return Eligibility.ofProducts
        (fun p => .ofMember? (Value.find? p members)) products
    | _ => unknownEligibilities products

end SubscriptionClient.Response
