import SubscriptionClient.Domain.CustomerInfo
import SubscriptionClient.Error.BackendCode
import SubscriptionClient.Error.Failure
import SubscriptionClient.Request.Signature
import SubscriptionClient.Value.Collection

/-!
# Classified errors

Every failure of a call that is delivered as a classified error is one of four kinds: the call was
invalid, the transport failed, the backend refused, or its answer could not be used. Details travel
in a context of named values.
-/

namespace SubscriptionClient

/-- Named details of an error. -/
abbrev Context := List (Value × Value)

inductive InvalidReason where
  | missingAppUserId
  | emptySubscriberAttributes
  deriving DecidableEq

namespace InvalidReason

def all : List InvalidReason := [missingAppUserId, emptySubscriberAttributes]

theorem mem_all (r : InvalidReason) : r ∈ all := by
  cases r <;> decide

def word : InvalidReason → String
  | missingAppUserId => "missing_app_user_id"
  | emptySubscriberAttributes => "empty_subscriber_attributes"

def ofValue? (v : Value) : Option InvalidReason :=
  all.find? fun r => (Value.text r.word.toText).sameKey v

end InvalidReason

/-- What was wrong with an answer of success status. -/
inductive UnexpectedAnswer where
  | customerInfoMalformed
  | customerInfoUnreadable
  | logInMissing
  | logInUnreadable
  | offeringsUnexpected
  | offerEmpty
  | offerUnreadable
  | offerListEmpty
  | offerUnsigned
  deriving DecidableEq

namespace UnexpectedAnswer

def all : List UnexpectedAnswer :=
  [customerInfoMalformed, customerInfoUnreadable, logInMissing, logInUnreadable,
    offeringsUnexpected, offerEmpty, offerUnreadable, offerListEmpty, offerUnsigned]

theorem mem_all (a : UnexpectedAnswer) : a ∈ all := by
  cases a <;> decide

def word : UnexpectedAnswer → String
  | customerInfoMalformed => "customer_info_response_malformed"
  | customerInfoUnreadable => "customer_info_response_parsing"
  | logInMissing => "login_missing_response"
  | logInUnreadable => "login_response_decoding"
  | offeringsUnexpected => "get_offer_unexpected_response"
  | offerEmpty => "post_offer_empty_response"
  | offerUnreadable => "post_offer_id_bad_response"
  | offerListEmpty => "post_offer_id_missing_offers_in_response"
  | offerUnsigned => "post_offer_id_signature"

def ofValue? (v : Value) : Option UnexpectedAnswer :=
  all.find? fun a => (Value.text a.word.toText).sameKey v

end UnexpectedAnswer

/-- A refusal by the backend: the code and message of its envelope, the status, and the customer
info when the request took effect all the same. -/
structure BackendRefusal where
  rawCode : Value
  backendMessage : Value
  status : Value
  customerInfo : Option CustomerInfo

inductive ClientErrorKind where
  | general (detail : Value)
  /-- The call failed a precondition; nothing was sent. -/
  | invalidRequest (reason : InvalidReason) (detail : Value)
  | network (underlying : Failure)
  | backend (refusal : BackendRefusal)
  /-- The answer could not be used; the issues are there when decoding failed. -/
  | unexpected (answer : UnexpectedAnswer) (extra : Value) (issues : Option (List Issue))

structure ClientError where
  kind : ClientErrorKind
  context : Context

namespace ClientErrorKind

def name : ClientErrorKind → String
  | general _ => "BackendClientError"
  | invalidRequest _ _ => "RequestValidationError"
  | network _ => "NetworkError"
  | backend _ => "BackendError"
  | unexpected _ _ _ => "UnexpectedResponseError"

def signatures : List Signature :=
  [⟨"BackendClientError", ["message"], ["context"]⟩,
    ⟨"RequestValidationError", ["reason"], ["message"]⟩,
    ⟨"NetworkError", ["underlying"], []⟩,
    ⟨"BackendError", ["raw_code", "message"], ["status_code", "context", "customer_info"]⟩,
    ⟨"UnexpectedResponseError", ["subcode"], ["extra_context", "context"]⟩]

end ClientErrorKind

namespace ClientError

/-- The context that a value stands for; a false one is empty. -/
def contextOf? (v : Value) : Except Misuse Context := if v.toBool then v.toMembers? else .ok []

/-- How a detail looks inside a message; another text stands for one that is false. -/
def shown? (other : Text) (detail : Value) : Option Text :=
  if detail.toBool then detail.display? else some other

def backendMessage? (r : BackendRefusal) : Option Text := do
  let code ← if r.rawCode.isNull then some "unknown".toText else r.rawCode.display?
  let detail ← shown? "no message".toText r.backendMessage
  return "Backend error ".toText ++ code ++ ": ".toText ++ detail

def unexpectedMessage? (answer : UnexpectedAnswer) (extra : Value) : Option Text := do
  let detail ← if extra.toBool then extra.display?.map (": ".toText ++ ·) else some []
  return "Unexpected backend response (".toText ++ answer.word.toText ++ ")".toText ++ detail

/-- The message of an error, if all that it tells can be written. -/
def message? (e : ClientError) : Option Text :=
  match e.kind with
  | .general detail => detail.display?
  | .invalidRequest reason detail =>
    shown? ("Invalid request: ".toText ++ reason.word.toText) detail
  | .network underlying => underlying.message?.map ("Network error: ".toText ++ ·)
  | .backend refusal => backendMessage? refusal
  | .unexpected answer extra _ => unexpectedMessage? answer extra

/-! ## Keys of the context -/

def successfullySyncedKey : String := "successfully_synced"

def attributeErrorsKey : String := "attribute_errors"

def finishableKey : String := "finishable"

def eligibilitiesKey : String := "eligibilities"

def detail? (name : String) (e : ClientError) : Option Value := Value.member? name e.context

/-! ## Constructors -/

def missingAppUserId : ClientError :=
  ⟨.invalidRequest .missingAppUserId
    (.text "App user ID is missing or cannot be escaped for a URL path.".toText), []⟩

def emptySubscriberAttributes : ClientError :=
  ⟨.invalidRequest .emptySubscriberAttributes
    (.text "Subscriber attributes must not be empty.".toText), []⟩

def network (underlying : Failure) : ClientError := ⟨.network underlying, []⟩

def unexpected (answer : UnexpectedAnswer) (extra : Option Text) (issues : Option (List Issue)) :
    ClientError := ⟨.unexpected answer (.ofText? extra) issues, []⟩

end ClientError

end SubscriptionClient
