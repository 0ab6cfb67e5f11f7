import SubscriptionClient.Text.Percent
import SubscriptionClient.Value.Basic

/-!
# Paths

The paths of the backend. A user's identifier enters a path only in escaped form.
-/

namespace SubscriptionClient.Path

def subscribers : Text := "/subscribers".toText

def receipts : Text := "/receipts".toText

def offers : Text := "/offers".toText

def identify : Text := "/subscribers/identify".toText

/-- The path of a subscriber, with a last part unless that is empty. -/
def subscriber (escaped suffix : Text) : Text :=
  let path := subscribers ++ "/".toText ++ escaped
  if suffix = [] then path else path ++ "/".toText ++ suffix

/-- The escaped form of an identifier that is a text, not empty, and has one. -/
def escapeUserId? : Value → Option Text
  | .text [] => none
  | .text t => Percent.escape? t
  | _ => none

end SubscriptionClient.Path
