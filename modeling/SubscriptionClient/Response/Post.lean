import SubscriptionClient.Response.Basic

/-!
# Answers to posts

Posts of attributes, aliases and attribution are answered by the status alone.
-/

namespace SubscriptionClient.Response

def subscriberAttributes (r : Response) : Attempt Unit :=
  match r.failure with
  | some f => .error (.ofClientError (.network f))
  | none => do
    if ← Status.isPostSuccess? r.status then return ()
    else
      let sync ← attributeSync? r.body r.status
      refuse r.body r.status sync.context none

def post (r : Response) : Attempt Unit :=
  match r.failure with
  | some f => .error (.ofClientError (.network f))
  | none => do
    if ← Status.isPostSuccess? r.status then return ()
    else refuse r.body r.status [] none

end SubscriptionClient.Response
