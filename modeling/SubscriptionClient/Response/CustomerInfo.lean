import SubscriptionClient.Response.Basic

/-!
# Answers with customer info

Fetching a subscriber and posting a receipt are answered with customer info. A receipt may be
accepted while some of its attributes are refused: then the error carries the customer info.
-/

namespace SubscriptionClient.Response

def statusAndBody? (status body : Value) : Attempt Text := do
  let number ← statusText? status
  return number ++ ", json: ".toText ++ (← description? body)

def parseCustomerInfo (body status : Value) : Attempt CustomerInfo := do
  let extra ← statusAndBody? status body
  if body.isNull then
    .error (.client (.unexpected .customerInfoMalformed (some extra) none))
  else
    match CustomerInfo.decode body with
    | .ok info => .ok info
    | .error issues =>
      .error (.client (.unexpected .customerInfoUnreadable (some extra) (some issues)))

def finishable (b : Bool) : Context := [(.text ClientError.finishableKey.toText, .bool b)]

def customerInfo (r : Response) : Attempt CustomerInfo :=
  match r.failure with
  | some f => .error (.ofClientError (.network f))
  | none => do
    if ← Status.isSuccess? r.status then
      let info ← parseCustomerInfo r.body r.status
      let sync ← attributeSync? r.body r.status
      if sync.hasErrors then
        let context := finishable (← Status.isBelowServerError? r.status) ++ sync.context
        refuse r.body r.status context (some info)
      else
        return info
    else
      let sync ← attributeSync? r.body r.status
      let context := finishable (← Status.isBelowServerError? r.status) ++ sync.context
      refuse r.body r.status context none

end SubscriptionClient.Response
