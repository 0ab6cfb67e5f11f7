import SubscriptionClient.Body.Envelope
import SubscriptionClient.Error.Fault
import SubscriptionClient.Value.Json

/-!
# Responses

The outcome of one request: a status, a body and perhaps a failure. A failure comes first in every
classification, then the status, and only then the body.
-/

namespace SubscriptionClient

structure Response where
  status : Value
  body : Value
  failure : Option Failure

/-- A computation that may fail with a fault. -/
abbrev Attempt (α : Type) := Except Fault α

namespace Attempt

def ofValues {α : Type} : Except Misuse α → Attempt α
  | .ok a => .ok a
  | .error m => .error (.misuse m)

end Attempt

namespace Status

def created : Int := 201

def redirect : Int := 300

def notFound : Int := 404

def internalServerError : Int := 500

/-- The number that a status is. -/
def number? (status : Value) : Attempt Decimal :=
  match status with
  | .decimal (.nan _ _ _) => .error (.misuse .notANumber)
  | v => match v.number? with
    | some x => .ok x
    | none => .error (.misuse (.unordered v (.int redirect)))

/-- Below a redirect. -/
def isSuccess? (status : Value) : Attempt Bool :=
  (number? status).map fun x => x.lt (.ofInt redirect)

/-- A redirect still counts as success for posts whose answer is not read. -/
def isPostSuccess? (status : Value) : Attempt Bool :=
  (number? status).map fun x => x.le (.ofInt redirect)

def isServerError? (status : Value) : Attempt Bool :=
  (number? status).map fun x => (Decimal.ofInt internalServerError).le x

def isBelowServerError? (status : Value) : Attempt Bool :=
  (number? status).map fun x => x.lt (.ofInt internalServerError)

def equals (n : Int) (status : Value) : Bool :=
  match status.number? with
  | some x => x.eq (.ofInt n)
  | none => false

end Status

namespace Response

def description? (body : Value) : Attempt Text := .ofValues (body.describe? Value.describeLimit)

def statusText? (status : Value) : Attempt Text :=
  .ofValues ((Misuse.ofWritten status.display?).map ("statusCode: ".toText ++ ·))

/-- Describes a value for the record; only a value that has no description stops the work. -/
def note (v : Value) : Attempt Unit := (description? v).map fun _ => ()

/-- The envelope of a body. A malformed one is noted. -/
def envelope? (body : Value) : Attempt Envelope := do
  if Envelope.isMalformed body then note body
  return Envelope.ofBody body

/-- Fails with the refusal that a body describes, unless its code cannot be written. -/
def refuse {α : Type} (body status : Value) (context : Context)
    (customerInfo : Option CustomerInfo) : Attempt α := do
  let envelope ← envelope? body
  .error (.ofClientError
    { kind := .backend
        { rawCode := .ofOption .int envelope.code
          backendMessage := .ofText? envelope.message
          status
          customerInfo }
      context })

/-- How the attributes of a request fared. -/
structure AttributeSync where
  synced : Bool
  errors : Option (List AttributeError)

/-- Attributes count as synced unless the backend failed or did not find the subscriber. -/
def attributeSync? (body status : Value) : Attempt AttributeSync := do
  let failed ← Status.isServerError? status
  let envelope ← envelope? body
  return ⟨!(failed || Status.equals Status.notFound status), envelope.resolvedErrors⟩

namespace AttributeSync

def context (s : AttributeSync) : Context :=
  (.text ClientError.successfullySyncedKey.toText, .bool s.synced) ::
    match s.errors with
    | some es => [(.text ClientError.attributeErrorsKey.toText, AttributeError.listToValue es)]
    | none => []

def hasErrors (s : AttributeSync) : Bool :=
  match s.errors with
  | some (_ :: _) => true
  | _ => false

end AttributeSync

end Response

end SubscriptionClient
