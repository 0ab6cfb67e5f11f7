import SubscriptionClient.Concurrency.WorkQueue

/-!
# Tasks

The jobs of a work queue at their plainest: a task notes that it runs, may close the queue, submits
further tasks and may fail in the end. A failure stays with the task; the worker goes on. Each task
waits at a gate before it runs, so that a run can be held with a task under way.
-/

namespace SubscriptionClient

inductive Task where
  | mk (label : Text) (closes : Bool) (spawns : List Task) (fails : Bool)

namespace Task

def label : Task → Text
  | mk label _ _ _ => label

def closes : Task → Bool
  | mk _ closes _ _ => closes

def spawns : Task → List Task
  | mk _ _ spawns _ => spawns

def fails : Task → Bool
  | mk _ _ _ fails => fails

mutual

/-- The number of tasks that a task brings about, itself included. -/
def size : Task → Nat
  | mk _ _ spawns _ => 1 + sizeAll spawns

def sizeAll : List Task → Nat
  | [] => 0
  | t :: ts => t.size + sizeAll ts

end

end Task

/-- What a task notes: its label and the name of its worker, or why another task was refused. -/
structure Note where
  label : Text
  remark : Text
  deriving DecidableEq

structure TaskRun where
  queue : WorkQueue Task
  held : Bool
  notes : List Note

namespace TaskRun

def start (name : Text) : TaskRun := ⟨.opened name, false, []⟩

def note (label remark : Text) (r : TaskRun) : TaskRun :=
  { r with notes := r.notes ++ [⟨label, remark⟩] }

def spawn (r : TaskRun) (t : Task) : TaskRun :=
  match r.queue.submit t with
  | .ok queue => { r with queue }
  | .error fault => (fault.message?.map (r.note t.label)).getD r

/-- Runs a task to its end. Whether it fails makes no difference to anyone else. -/
def perform (t : Task) (r : TaskRun) : TaskRun :=
  let noted := r.note t.label r.queue.name
  let settled := if t.closes then { noted with queue := noted.queue.close } else noted
  t.spawns.foldl spawn settled

/-- One step of the worker: it takes an item, or performs its task unless it is held. -/
def work (r : TaskRun) : TaskRun :=
  match r.queue.worker with
  | .busy t =>
    if r.held then r
    else
      let performed := r.perform t
      { performed with queue := performed.queue.finish }
  | _ => { r with queue := r.queue.take }

/-- The steps that an item leads to at most: the worker takes a task and performs it, and so with
those that the task brings about. -/
def itemSize : QueueItem Task → Nat
  | .job t => 2 * t.size
  | .stop => 1

def itemsSize : List (QueueItem Task) → Nat
  | [] => 0
  | item :: items => itemSize item + itemsSize items

/-- As many steps as the worker can have left. While the queue is open, a task may still put in a
stop marker. -/
def remaining (r : TaskRun) : Nat :=
  let taken := match r.queue.worker with
    | .busy t => 2 * t.size - 1
    | _ => 0
  itemsSize r.queue.items + taken + if r.queue.closed then 0 else 1

def steps : Nat → TaskRun → TaskRun
  | 0, r => r
  | n + 1, r => steps n r.work

/-- Lets the worker go on until it has nothing to do or is held. -/
def advance (r : TaskRun) : TaskRun := steps r.remaining r

inductive Action where
  | submit (t : Task)
  | hold
  | release
  | join
  | close (wait : Bool)

/-- What an action does before the worker goes on, and the fault that it raises. -/
def act (r : TaskRun) : Action → TaskRun × Option Fault
  | .submit t => match r.queue.submit t with
    | .ok queue => ({ r with queue }, none)
    | .error fault => (r, some fault)
  | .hold => ({ r with held := true }, none)
  | .release => ({ r with held := false }, none)
  | .join => (r, none)
  | .close _ => ({ r with queue := r.queue.close }, none)

/-- What an action led to: the fault that it raised, and what was noted until the worker had to
stop. -/
structure Report where
  fault : Option Fault
  closed : Bool
  notes : List Note

def step (r : TaskRun) (a : Action) : TaskRun × Report :=
  let (acted, fault) := r.act a
  let next := acted.advance
  (next, ⟨fault, next.queue.closed, next.notes.drop r.notes.length⟩)

def reports (r : TaskRun) : List Action → List Report
  | [] => []
  | a :: as =>
    let (next, report) := r.step a
    report :: reports next as

end TaskRun

end SubscriptionClient
