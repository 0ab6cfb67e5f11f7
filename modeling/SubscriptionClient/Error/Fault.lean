import SubscriptionClient.Error.ClientError

/-!
# Faults

Everything that a future can fail with or a call can raise.
-/

namespace SubscriptionClient

inductive Fault where
  | client (e : ClientError)
  | incident (i : Incident)
  | misuse (m : Misuse)
  | undecodable (issues : List Issue)
  /-- The work queue of this name takes no more work. -/
  | queueClosed (name : Text)
  /-- A future was finished a second time, or its cancellation was already noticed. -/
  | futureSettled
  /-- Nothing waits under this key in the registry of this name. -/
  | nothingWaiting (name key : Text)
  /-- Nobody is known under this label. -/
  | unknownLabel (label : Text)

namespace Fault

def queueClosedMessage (name : Text) : Text :=
  "Operation queue '".toText ++ name ++ "' has been shut down.".toText

def nothingWaitingMessage (name key : Text) : Text :=
  "No in-flight ".toText ++ name ++ " callbacks registered for key '".toText ++ key ++ "'.".toText

def message? : Fault → Option Text
  | client e => e.message?
  | incident i => some i.message
  | misuse m => some m.message
  | undecodable _ => some "The value does not fit its schema.".toText
  | queueClosed name => some (queueClosedMessage name)
  | futureSettled => some "Future in unexpected state".toText
  | nothingWaiting name key => some (nothingWaitingMessage name key)
  | unknownLabel label => some (Value.literalText label)

/-- What it comes to when an error is raised. Its message is written first. -/
def ofClientError (e : ClientError) : Fault :=
  match e.message? with
  | some _ => client e
  | none => misuse .tooManyDigits

end Fault

end SubscriptionClient
