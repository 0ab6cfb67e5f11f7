import SubscriptionClient.Domain.Offerings
import SubscriptionClient.Response.Basic

/-!
# Answers with offerings
-/

namespace SubscriptionClient.Response

def offerings (r : Response) : Attempt Offerings :=
  match r.failure with
  | some f => .error (.ofClientError (.network f))
  | none => do
    if ← Status.isSuccess? r.status then
      if r.body.isNull then .error (.client (.unexpected .offeringsUnexpected none none))
      else
        match Offerings.decode r.body with
        | .ok offerings => return offerings
        | .error issues =>
          let extra ← description? r.body
          .error (.client (.unexpected .offeringsUnexpected (some extra) (some issues)))
    else
      note r.body
      if r.body.isNull then
        let extra ← statusText? r.status
        .error (.client (.unexpected .offeringsUnexpected (some extra) none))
      else
        refuse r.body r.status [] none

end SubscriptionClient.Response
