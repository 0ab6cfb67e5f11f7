import SubscriptionClient.Response.Basic

/-!
# Answers to a log-in

A log-in is answered with the customer info of the new user; the status tells whether the user was
created.
-/

namespace SubscriptionClient

structure LogInResult where
  customerInfo : CustomerInfo
  created : Bool

namespace Response

def logIn (r : Response) : Attempt LogInResult :=
  match r.failure with
  | some f => .error (.ofClientError (.network f))
  | none => do
    if ← Status.isSuccess? r.status then
      if r.body.isNull then .error (.client (.unexpected .logInMissing none none))
      else
        match CustomerInfo.decode r.body with
        | .ok info => return ⟨info, Status.equals Status.created r.status⟩
        | .error issues =>
          let extra ← description? r.body
          .error (.client (.unexpected .logInUnreadable (some extra) (some issues)))
    else
      refuse r.body r.status [] none

end Response

end SubscriptionClient
