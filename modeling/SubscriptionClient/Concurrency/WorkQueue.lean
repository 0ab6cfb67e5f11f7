import SubscriptionClient.Error.Fault

/-!
# Work queues

One worker takes the jobs of a queue one at a time, in the order in which they were submitted. It
comes into being with the first job. Closing puts a stop marker behind all accepted jobs; after that
nothing is accepted, and the worker is gone once it reaches the marker.
-/

namespace SubscriptionClient

inductive Worker (α : Type) where
  | absent
  | idle
  | busy (job : α)
  | gone

inductive QueueItem (α : Type) where
  | job (a : α)
  | stop

structure WorkQueue (α : Type) where
  name : Text
  closed : Bool
  worker : Worker α
  items : List (QueueItem α)
  /-- Items that were put in and are not done with. -/
  unfinished : Nat

namespace Worker

variable {α : Type}

/-- The worker once there is work for it. -/
def started : Worker α → Worker α
  | absent => idle
  | w => w

def isAbsent : Worker α → Bool
  | absent => true
  | _ => false

def isGone : Worker α → Bool
  | gone => true
  | _ => false

end Worker

namespace WorkQueue

variable {α : Type}

def opened (name : Text) : WorkQueue α := ⟨name, false, .absent, [], 0⟩

/-- Puts a job behind all others, unless the queue is closed. -/
def submit (a : α) (q : WorkQueue α) : Except Fault (WorkQueue α) :=
  if q.closed then .error (.queueClosed q.name)
  else
    .ok { q with
      worker := q.worker.started
      items := q.items ++ [.job a]
      unfinished := q.unfinished + 1 }

/-- Closes the queue. A worker that never came into being needs no marker. -/
def close (q : WorkQueue α) : WorkQueue α :=
  if q.closed then q
  else if q.worker.isAbsent then { q with closed := true }
  else { q with closed := true, items := q.items ++ [.stop], unfinished := q.unfinished + 1 }

/-- Whether a waiting close of this queue has to wait for the worker: not when the queue is closed
already or has no worker, and never when the worker itself closes it. -/
def closeWaits (byWorker : Bool) (q : WorkQueue α) : Bool :=
  !q.closed && !q.worker.isAbsent && !byWorker

/-- Whether a close that began in the first state may return in the second. -/
def closeReturns (wait byWorker : Bool) (before now : WorkQueue α) : Bool :=
  !(wait && before.closeWaits byWorker) || now.worker.isGone

/-- An idle worker takes the next item. -/
def take (q : WorkQueue α) : WorkQueue α :=
  match q.worker, q.items with
  | .idle, .job a :: rest => { q with worker := .busy a, items := rest }
  | .idle, .stop :: rest =>
    { q with worker := .gone, items := rest, unfinished := q.unfinished - 1 }
  | _, _ => q

/-- A busy worker is done with its job, however it ended. -/
def finish (q : WorkQueue α) : WorkQueue α :=
  match q.worker with
  | .busy _ => { q with worker := .idle, unfinished := q.unfinished - 1 }
  | _ => q

/-- Whether there is nothing to wait for. -/
def isJoined (q : WorkQueue α) : Bool := q.unfinished == 0

theorem submit_of_closed {q : WorkQueue α} (h : q.closed = true) (a : α) :
    q.submit a = .error (.queueClosed q.name) := by
  simp [submit, h]

theorem submit_of_open {q : WorkQueue α} (h : q.closed = false) (a : α) :
    q.submit a = .ok { q with
      worker := q.worker.started
      items := q.items ++ [.job a]
      unfinished := q.unfinished + 1 } := by
  simp [submit, h]

@[simp] theorem closed_close (q : WorkQueue α) : q.close.closed = true := by
  unfold close
  split
  · assumption
  · split <;> rfl

end WorkQueue

end SubscriptionClient
