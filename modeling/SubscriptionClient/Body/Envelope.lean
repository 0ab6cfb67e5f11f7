import SubscriptionClient.Body.Contracts

/-!
# Error envelopes

The code, message and attribute errors of a failed request. A body from which no envelope can be
decoded counts as an empty one.
-/

namespace SubscriptionClient

/-- What the backend found wrong with one attribute. -/
abbrev AttributeError := List (Text × Value)

structure Envelope where
  code : Option Int
  message : Option Text
  attributeErrors : Option (List AttributeError)
  /-- The attribute errors of the nested response, if there is such a response. -/
  nested : Option (Option (List AttributeError))

namespace Envelope

def empty : Envelope := ⟨none, none, none, none⟩

def nestedOfRecord : Body.attributesErrorResponse.Denotes → Option (List AttributeError)
  | (errors, ()) => errors

def ofRecord : Body.errorEnvelope.Denotes → Envelope
  | (code, message, errors, nested, ()) => ⟨code, message, errors, nested.map nestedOfRecord⟩

def ofBody (body : Value) : Envelope :=
  match Body.errorEnvelope.decode body with
  | .ok record => ofRecord record
  | .error _ => empty

/-- Whether a body is a mapping but no envelope. -/
def isMalformed (body : Value) : Bool :=
  match body, Body.errorEnvelope.decode body with
  | .map _, .error _ => true
  | _, _ => false

/-- The nested response decides, if there is one; else the errors at the top. -/
def resolvedErrors (e : Envelope) : Option (List AttributeError) :=
  e.nested.getD e.attributeErrors

end Envelope

namespace AttributeError

def toValue (e : AttributeError) : Value := .map (e.map fun m => (.text m.1, m.2))

def listToValue (es : List AttributeError) : Value := .list (es.map toValue)

end AttributeError

end SubscriptionClient
