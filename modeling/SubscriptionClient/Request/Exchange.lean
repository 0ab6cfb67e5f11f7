import SubscriptionClient.Request.Operation

/-!
# Exchanges with the transport

An exchange is what a worker needs of an operation: where to send what, and how to read the answer.
The transport hands back a response in three parts, or something malformed, or it raises. Only a
malformed answer stops an exchange before the answer is classified.
-/

namespace SubscriptionClient

/-- What the transport does with a request. -/
inductive Reply where
  | raised (i : Incident)
  /-- An answer in some number of parts, each a value or a failure. -/
  | parts (fields : List Failure)
  | nothing

namespace Reply

def statusOf : Failure → Value
  | .value v => v
  | _ => .null

/-- A part of an answer counts as a failure unless it is null. -/
def failureOf? : Failure → Option Failure
  | .value .null => none
  | f => some f

/-- The response of a well-formed reply. One that is raised counts as a failed request. -/
def response? : Reply → Attempt Response
  | raised i => .ok ⟨.int 0, .null, some (.incident i)⟩
  | parts [status, body, failure] =>
    .ok ⟨statusOf status, statusOf body, failureOf? failure⟩
  | parts _ => .error (.misuse .malformedAnswer)
  | nothing => .error (.misuse .missingAnswer)

def ofResponse (r : Response) : Reply :=
  parts [.value r.status, .value r.body, r.failure.getD (.value .null)]

end Reply

structure Exchange where
  name : String
  method : Method
  path : Text
  body : Except Misuse Value
  handle : Response → Attempt Outcome

namespace Operation

def exchange (o : Operation) : Exchange where
  name := o.kindName
  method := o.method
  path := o.path
  body := o.body
  handle := o.handle

end Operation

/-- A request as the transport sees it; fetching sends no body. -/
structure Sent where
  method : Method
  path : Text
  headers : List (Text × Text)
  body : Option Value

namespace Exchange

/-- What is sent, or the response that stands for a body that could not be built. -/
def prepare (headers : List (Text × Text)) (e : Exchange) : Except Response Sent :=
  match e.method with
  | .get => .ok ⟨e.method, e.path, headers, none⟩
  | .post => match e.body with
    | .ok body => .ok ⟨e.method, e.path, headers, some body⟩
    | .error m => .error ⟨.int 0, .null, some (.misuse m)⟩

def text (e : Exchange) : Text :=
  "<".toText ++ e.name.toText ++ " ".toText ++ e.method.word.toText ++ " ".toText ++ e.path ++
    ">".toText

end Exchange

end SubscriptionClient
