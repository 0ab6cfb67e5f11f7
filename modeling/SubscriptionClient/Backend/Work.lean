import SubscriptionClient.Backend.Basic

/-!
# The worker of the backend

The worker takes a job, sends its request, waits for the answer, takes out the batch of the key and
delivers the outcome to one waiter at a time. Callers may act between any two of these steps.
-/

namespace SubscriptionClient.Backend

def finish (b : Backend) : Backend := { b with queue := b.queue.finish, stage := .fresh }

/-- A fault stops the job; its waiters stay. -/
def abandon (fault : Fault) (b : Backend) : Backend :=
  { b.finish with escaped := b.escaped ++ [fault] }

/-- Takes out the batch of a job whose response is there, to deliver its outcome. -/
def answer (job : Job) (r : Response) (b : Backend) : Backend :=
  let family := job.operation.family
  match (b.registries family).drain? job.key with
  | some (batch, registry) =>
    { (b.setRegistry family registry).record (.answered job batch r) with
      stage := .delivering (job.operation.handle r) batch }
  | none => b.abandon (.nothingWaiting family.displayName job.key)

/-- Sends the request of a job. A body that cannot be built counts as a failed request. -/
def send (job : Job) (b : Backend) : Backend :=
  match job.operation.exchange.prepare b.headers with
  | .ok sent => { b.note (.sent sent) with stage := .awaiting sent }
  | .error r => b.answer job r

def work (transport : Sent → Reply) (b : Backend) : Backend :=
  match b.queue.worker with
  | .busy job => match b.stage with
    | .fresh => b.send job
    | .awaiting sent => match (transport sent).response? with
      | .ok r => b.answer job r
      | .error fault => b.abandon fault
    | .delivering outcome (n :: ns) =>
      deliver outcome n { b with stage := .delivering outcome ns }
    | .delivering _ [] => b.finish
  | _ => { b with queue := b.queue.take }

/-- What callers and the worker do, one after the other. Each step of the worker meets a transport
of its own, so that answers may change over time. -/
inductive Action where
  | run (s : Script)
  | cancel (n : Nat)
  | clearCaches
  | work (transport : Sent → Reply)

def act (b : Backend) : Action → Backend
  | .run s => b.perform s
  | .cancel n => (b.cancel n).1
  | .clearCaches => b.clearCaches
  | .work transport => b.work transport

def run (b : Backend) (actions : List Action) : Backend := actions.foldl act b

/-! ## Letting the worker go on -/

/-- Whether the worker stands before the answer to its request. -/
def isAwaiting (b : Backend) : Bool :=
  match b.queue.worker, b.stage with
  | .busy _, .awaiting _ => true
  | _, _ => false

/-- The calls and closings that may still follow futures. -/
def followingSize (b : Backend) : Nat :=
  (b.tickets.flatMap (·.future.followers)).foldr (fun s n => s.size + n) 0

/-- As many steps as the worker can have left: each job takes four steps apart from its deliveries,
and each future is delivered to once. -/
def remaining (b : Backend) : Nat :=
  5 * (b.queue.items.length + b.tickets.length + b.followingSize + 1)

def steps (held : Bool) (transport : Sent → Reply) : Nat → Backend → Backend
  | 0, b => b
  | n + 1, b =>
    if b.isResting || (held && b.isAwaiting) then b
    else steps held transport n (b.work transport)

/-- Lets the worker go on until it has nothing to do, or until it awaits an answer while held. -/
def advance (held : Bool) (transport : Sent → Reply) (b : Backend) : Backend :=
  steps held transport b.remaining b

end SubscriptionClient.Backend
