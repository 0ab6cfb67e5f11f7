import SubscriptionClient.Backend.Call
import SubscriptionClient.Concurrency.Future
import SubscriptionClient.Concurrency.Registry
import SubscriptionClient.Concurrency.WorkQueue
import SubscriptionClient.Request.Exchange

/-!
# The backend

All calls go through one backend. It keeps the futures it has handed out, a registry of waiters for
each family of operations, and the queue whose worker performs the operations one at a time. Only
the first waiter of a key submits an operation; a refused submission takes the batch out again and
fails it. A journal tells who waited for which operation, and what became of it.
-/

namespace SubscriptionClient

/-- What a caller does without waiting: calls, each with what it does once that call's future is
done, and closing. -/
inductive Script where
  | nil
  | call (label : Text) (c : Call) (next rest : Script)
  | close (rest : Script)

namespace Script

def size : Script → Nat
  | nil => 0
  | call _ _ next rest => 1 + next.size + rest.size
  | close rest => 1 + rest.size

end Script

/-- A future that was handed out, under the label of its call. One that waits for a request has the
key that it waits under. -/
structure Ticket where
  label : Text
  key : Option Text
  future : Future (Attempt Outcome) Script

inductive Event where
  | sent (s : Sent)
  | done (label : Text) (state : FutureState (Attempt Outcome))
  | raised (label : Text) (c : Call) (fault : Fault)
  | cleared

/-- What the journal tells of shared requests. Futures go by their place among the tickets. -/
inductive Entry where
  /-- A future joins those who wait for a job, or is the first of them. -/
  | registered (n : Nat) (job : Job) (registration : Registration)
  | accepted (job : Job)
  /-- The queue refuses a job, and those who wait for it are failed. -/
  | refused (job : Job) (batch : List Nat) (fault : Fault)
  /-- Those who wait for a job are taken out, to be given what its response means. -/
  | answered (job : Job) (batch : List Nat) (r : Response)

/-- How far the worker is with its job. -/
inductive Stage where
  | fresh
  | awaiting (sent : Sent)
  | delivering (outcome : Attempt Outcome) (waiting : List Nat)

structure Backend where
  headers : List (Text × Text)
  /-- Whether the transport has caches that it can clear. -/
  clearable : Bool
  queue : WorkQueue Job
  stage : Stage
  registries : Family → Registry Nat
  tickets : List Ticket
  events : List Event
  /-- The faults that stopped operations; the worker goes on. -/
  escaped : List Fault
  journal : List Entry

namespace Backend

def start (apiHeaders : List (Text × Text)) (clearable : Bool) (queueName : Text) : Backend where
  headers := apiHeaders
  clearable
  queue := .opened queueName
  stage := .fresh
  registries := fun _ => .empty
  tickets := []
  events := []
  escaped := []
  journal := []

def note (e : Event) (b : Backend) : Backend := { b with events := b.events ++ [e] }

def record (e : Entry) (b : Backend) : Backend := { b with journal := b.journal ++ [e] }

def setRegistry (family : Family) (registry : Registry Nat) (b : Backend) : Backend :=
  { b with registries := fun f => if f = family then registry else b.registries f }

def setFuture (n : Nat) (future : Future (Attempt Outcome) Script) (b : Backend) : Backend :=
  { b with tickets := b.tickets.modify n fun t => { t with future } }

def handOut (label : Text) (key : Option Text) (state : FutureState (Attempt Outcome))
    (b : Backend) : Backend × Nat :=
  ({ b with tickets := b.tickets ++ [⟨label, key, ⟨state, []⟩⟩] }, b.tickets.length)

def fail (fault : Fault) (b : Backend) (n : Nat) : Backend :=
  match b.tickets[n]? with
  | some t => match t.future.deliver? (.error fault) with
    | some (future, _) => b.setFuture n future
    | none => b
  | none => b

/-- Submits the operation of a key that nobody else has in flight. If the queue refuses it, its
batch is taken out again and failed; there has to be one. -/
def submit (job : Job) (b : Backend) : Attempt Backend :=
  match b.queue.submit job with
  | .ok queue => .ok ({ b with queue }.record (.accepted job))
  | .error fault =>
    let family := job.operation.family
    match (b.registries family).drain? job.key with
    | some (batch, registry) =>
      .ok (batch.foldl (fail fault)
        ((b.setRegistry family registry).record (.refused job batch fault)))
    | none => .error (.nothingWaiting family.displayName job.key)

def enrol (label : Text) (job : Job) (b : Backend) : Backend × Nat × Registration :=
  let (handed, n) := b.handOut label (some job.key) .pending
  let family := job.operation.family
  let (registry, registration) := (b.registries family).register job.key n
  ((handed.setRegistry family registry).record (.registered n job registration), n, registration)

/-- Registers a new future for a job, and submits the job if it is the first under its key. -/
def dispatch (label : Text) (job : Job) (b : Backend) : Backend × Attempt Nat :=
  match b.enrol label job with
  | (enrolled, n, .joined) => (enrolled, .ok n)
  | (enrolled, n, .first) => match enrolled.submit job with
    | .ok submitted => (submitted, .ok n)
    | .error fault => (enrolled, .error fault)

/-- Makes a call. The result is the future that it hands out, or the fault that it raises. -/
def issue (label : Text) (c : Call) (b : Backend) : Backend × Attempt Nat :=
  match c.admission with
  | .raised fault => (b.note (.raised label c fault), .error fault)
  | .settled outcome =>
    let (handed, n) := b.handOut label none (.finished outcome)
    (handed, .ok n)
  | .dispatch job => match b.dispatch label job with
    | (dispatched, .ok n) => (dispatched, .ok n)
    | (dispatched, .error fault) =>
      (dispatched.note (.raised label c fault), .error fault)

/-- Registers what follows a future, unless it is done. -/
def followedBy? (n : Nat) (next : Script) (b : Backend) : Option Backend := do
  let t ← b.tickets[n]?
  let future ← t.future.followedBy? next
  return b.setFuture n future

def noteDone (n : Nat) (b : Backend) : Backend :=
  match b.tickets[n]? with
  | some t => b.note (.done t.label t.future.state)
  | none => b

/-- Carries out a script. What follows a call that is settled at once comes before the rest. -/
def perform : Script → Backend → Backend
  | .nil, b => b
  | .close rest, b => perform rest { b with queue := b.queue.close }
  | .call label c next rest, b =>
    match b.issue label c with
    | (issued, .error _) => perform rest issued
    | (issued, .ok n) => match issued.followedBy? n next with
      | some registered => perform rest registered
      | none => perform rest (perform next (issued.noteDone n))

def conclude (n : Nat) (scripts : List Script) (b : Backend) : Backend :=
  scripts.foldl (fun b s => (b.noteDone n).perform s) b

def cancel (n : Nat) (b : Backend) : Backend × Bool :=
  match b.tickets[n]? with
  | some t =>
    let (future, scripts) := t.future.cancel
    ((b.setFuture n future).conclude n scripts, future.state.isCancelled)
  | none => (b, false)

def deliver (outcome : Attempt Outcome) (n : Nat) (b : Backend) : Backend :=
  match b.tickets[n]? with
  | some t => match t.future.deliver? outcome with
    | some (future, scripts) => (b.setFuture n future).conclude n scripts
    | none => b
  | none => b

def clearCaches (b : Backend) : Backend := if b.clearable then b.note .cleared else b

/-! ## Views -/

/-- Whether every worker's step would change nothing. -/
def isResting (b : Backend) : Bool :=
  match b.queue.worker with
  | .busy _ => false
  | .idle => b.queue.items.isEmpty
  | .absent | .gone => true

def state? (n : Nat) (b : Backend) : Option (FutureState (Attempt Outcome)) :=
  b.tickets[n]?.map (·.future.state)

/-- The requests that reached the transport, in order. -/
def requests (b : Backend) : List Sent :=
  b.events.filterMap fun
    | .sent s => some s
    | _ => none

/-- For each label the last future that was handed out under it. -/
def latest (b : Backend) : List Ticket :=
  b.tickets.foldr (fun t later => if later.any (·.label == t.label) then later else t :: later) []

/-- The labels whose last futures are not done. -/
def unresolved (b : Backend) : List Text :=
  (b.latest.filter fun t => !t.future.isDone).map (·.label)

end Backend

end SubscriptionClient
