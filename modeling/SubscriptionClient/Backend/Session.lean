import SubscriptionClient.Backend.Work

/-!
# Sessions

A session is a backend with a transport that answers by path. The transport can be held: then the
request under way gets no answer until it is released. After each step the worker goes on as far as
it can.
-/

namespace SubscriptionClient

structure Session where
  backend : Backend
  replies : List (Text × Reply)
  held : Bool

namespace Session

def defaultReply : Reply := .ofResponse ⟨.int 200, .map [], none⟩

/-- The answer that was set last for the path of a request. -/
def transport (s : Session) (sent : Sent) : Reply :=
  (s.replies.lookup sent.path).getD defaultReply

inductive Step where
  | respond (path : Text) (reply : Reply)
  | run (script : Script)
  | cancel (label : Text)
  | clearCaches
  | hold
  | release

/-- The last future that was handed out under a label. -/
def ticketOf? (label : Text) (s : Session) : Option Nat :=
  let tickets := s.backend.tickets
  (tickets.zipIdx.reverse.find? fun t => t.1.label == label).map Prod.snd

/-- What a step does before the worker goes on. The second part tells how a cancellation went. -/
def act (s : Session) : Step → Session × Option Bool
  | .respond path reply => ({ s with replies := (path, reply) :: s.replies }, none)
  | .run script => ({ s with backend := s.backend.perform script }, none)
  | .cancel label => match s.ticketOf? label with
    | some n =>
      let (backend, cancelled) := s.backend.cancel n
      ({ s with backend }, some cancelled)
    | none => (s, none)
  | .clearCaches => ({ s with backend := s.backend.clearCaches }, none)
  | .hold => ({ s with held := true }, none)
  | .release => ({ s with held := false }, none)

def advance (s : Session) : Session :=
  { s with backend := s.backend.advance s.held s.transport }

/-- What a step led to: how a cancellation went, what happened until the worker had to stop, and
the backend as it is then. -/
structure Report where
  cancelled : Option Bool
  events : List Event
  backend : Backend

def step (s : Session) (step : Step) : Session × Report :=
  let (acted, cancelled) := s.act step
  let next := acted.advance
  (next, ⟨cancelled, next.backend.events.drop s.backend.events.length, next.backend⟩)

def reports (s : Session) : List Step → List Report
  | [] => []
  | step :: steps =>
    let (next, report) := s.step step
    report :: reports next steps

end Session

end SubscriptionClient
