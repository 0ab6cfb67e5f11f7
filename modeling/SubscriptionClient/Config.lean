import SubscriptionClient.Text.Blank

/-!
# Configuration

The key of the programming interface and the name of the worker, from the caller or from the
environment. Values of blanks alone count as missing.
-/

namespace SubscriptionClient.Config

def apiKeyVariable : Text := "PURCHASES_API_KEY".toText

def workerNameVariable : Text := "PURCHASES_WORKER_NAME".toText

def defaultWorkerName : Text := "purchases-backend".toText

abbrev Environment := List (Text × Text)

/-- A text without the blanks around it, unless nothing is left. -/
def given? (value : Option Text) : Option Text :=
  match value.map Text.strip with
  | some (c :: cs) => some (c :: cs)
  | _ => none

def Environment.read? (name : Text) (env : Environment) : Option Text := given? (env.lookup name)

/-- The key that the caller gives, or else the one of the environment. -/
def apiKey? (explicit : Option Text) (env : Environment) : Option Text :=
  (given? explicit).or (env.read? apiKeyVariable)

def missingKeyMessage : Text :=
  "No API key configured. Pass api_key or set the ".toText ++ apiKeyVariable ++
    " environment variable.".toText

def authHeaders (apiKey : Text) : List (Text × Text) :=
  [("Authorization".toText, "Bearer ".toText ++ apiKey)]

def workerName (env : Environment) : Text := (env.read? workerNameVariable).getD defaultWorkerName

/-- The name of a queue: the given one unless it is empty. -/
def queueName (name : Option Text) (env : Environment) : Text :=
  match name with
  | some (c :: cs) => c :: cs
  | _ => workerName env

end SubscriptionClient.Config
