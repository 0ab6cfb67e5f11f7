import SubscriptionClient.Domain.SignedOffer
import SubscriptionClient.Response.Basic

/-!
# Answers to a request for a signature

The body lists offers, of which the first counts. It holds an error, or the data of the signature.
-/

namespace SubscriptionClient.Response

/-- The offers of a body, when they are a list of mappings. -/
def offerList? (body : Value) : Option (List (List (Value × Value))) :=
  match Value.member? "offers" body.members with
  | some (.list offers) => offers.mapM fun
    | .map es => some es
    | _ => none
  | _ => none

/-- The outcome that the first offer decides. -/
def signedOffer (status : Value) (offer : List (Value × Value)) : Attempt SignedOffer :=
  match Value.member? "signature_error" offer, Value.member? "signature_data" offer with
  | some (.map error), _ => refuse (.map error) status [] none
  | _, some (.map data) =>
    match SignedOffer.decode (Value.member? "key_id" offer) (.map data) with
    | .ok signed => .ok signed
    | .error issues => .error (.undecodable issues)
  | _, data => do
    note (data.getD .null)
    .error (.client (.unexpected .offerUnsigned none none))

def offerSigning (r : Response) : Attempt SignedOffer :=
  match r.failure with
  | some f => .error (.ofClientError (.network f))
  | none => do
    if ← Status.isSuccess? r.status then
      if r.body.isNull then .error (.client (.unexpected .offerEmpty none none))
      else
        match offerList? r.body with
        | none =>
          let extra ← description? r.body
          .error (.client (.unexpected .offerUnreadable (some extra) none))
        | some [] =>
          note r.body
          .error (.client (.unexpected .offerListEmpty none none))
        | some (offer :: _) => signedOffer r.status offer
    else
      refuse r.body r.status [] none

end SubscriptionClient.Response
