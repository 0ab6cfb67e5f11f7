import SubscriptionClient.Proofs.Concurrency.Logs
import SubscriptionClient.Proofs.Concurrency.Serial

/-!
# Jobs in their turn

The log of a queue tells of every submission, closing and job. Whatever callers and running jobs do,
the worker takes the accepted jobs in their order, one at a time and each once; the stop marker comes
behind all of them, and when the worker has reached it nothing is left.
-/

namespace SubscriptionClient

/-- What is done with a queue. Submissions and closings come from callers or from the running job. -/
inductive QueueMove (α : Type) where
  | submit (a : α)
  | close (wait : Bool)
  /-- The worker takes an item, if it is idle and there is one. -/
  | take
  /-- The running job comes to its end, perhaps with a fault. -/
  | finish (fault : Option Fault)

inductive QueueEvent (α : Type) where
  | accepted (a : α)
  | refused (a : α) (fault : Fault)
  | closing
  /-- A stop marker is put in. -/
  | marked
  | started (a : α)
  /-- The worker has reached the stop marker. -/
  | stopped
  | ended (a : α)

namespace QueueEvent

variable {α : Type}

def accepted? : QueueEvent α → Option α
  | accepted a => some a
  | _ => none

def started? : QueueEvent α → Option α
  | started a => some a
  | _ => none

def ended? : QueueEvent α → Option α
  | ended a => some a
  | _ => none

def isMarked : QueueEvent α → Bool
  | marked => true
  | _ => false

/-- What has happened before an event, in the queue of a name. -/
def Fits (name : Text) (before : List (QueueEvent α)) : QueueEvent α → Prop
  | accepted _ => .closing ∉ before
  | refused _ fault => .closing ∈ before ∧ fault = .queueClosed name
  | marked => .closing ∈ before ∧ .marked ∉ before
  | _ => True

end QueueEvent

/-- A queue with its log. -/
structure QueueRun (α : Type) where
  queue : WorkQueue α
  log : List (QueueEvent α)

namespace WorkQueue

variable {α : Type}

/-- The job under way. -/
def running (q : WorkQueue α) : List α :=
  match q.worker with
  | .busy a => [a]
  | _ => []

def move (q : WorkQueue α) : QueueMove α → WorkQueue α
  | .submit a => match q.submit a with
    | .ok next => next
    | .error _ => q
  | .close _ => q.close
  | .take => q.take
  | .finish _ => q.finish

/-- What happens with a move. A closing puts in a marker if the items become more. -/
def happens (q : WorkQueue α) : QueueMove α → List (QueueEvent α)
  | .submit a => match q.submit a with
    | .ok _ => [.accepted a]
    | .error fault => [.refused a fault]
  | .close _ => if q.items.length < q.close.items.length then [.closing, .marked] else [.closing]
  | .take => match q.worker, q.take.worker with
    | .idle, .busy a => [.started a]
    | .idle, .gone => [.stopped]
    | _, _ => []
  | .finish _ => q.running.map .ended

end WorkQueue

namespace QueueRun

variable {α : Type}

def opened (name : Text) : QueueRun α := ⟨.opened name, []⟩

def move (r : QueueRun α) (m : QueueMove α) : QueueRun α :=
  ⟨r.queue.move m, r.log ++ r.queue.happens m⟩

def run (r : QueueRun α) (moves : List (QueueMove α)) : QueueRun α := moves.foldl move r

def accepted (r : QueueRun α) : List α := r.log.filterMap QueueEvent.accepted?

def started (r : QueueRun α) : List α := r.log.filterMap QueueEvent.started?

def ended (r : QueueRun α) : List α := r.log.filterMap QueueEvent.ended?

end QueueRun

/-! ## What a move may do -/

namespace WorkQueue

variable {α : Type} {q q' : WorkQueue α} {a : α} {events : List (QueueEvent α)} {name : Text}

/-- The queue after a move, and what happens with it. -/
inductive MoveStep (q : WorkQueue α) : WorkQueue α → List (QueueEvent α) → Prop where
  | accepted (a : α) {q' : WorkQueue α} (h : q.submit a = .ok q') : MoveStep q q' [.accepted a]
  | refused (a : α) (hq : q.closed = true) : MoveStep q q [.refused a (.queueClosed q.name)]
  | closed (hitems : q.close.items = q.items) (hcount : q.close.unfinished = q.unfinished) :
    MoveStep q q.close [.closing]
  | marked (hq : q.closed = false) (hitems : q.close.items = q.items ++ [.stop])
    (hcount : q.close.unfinished = q.unfinished + 1) : MoveStep q q.close [.closing, .marked]
  | started {a : α} {rest : List (QueueItem α)} (hw : q.worker = .idle)
    (hitems : q.items = .job a :: rest) :
    MoveStep q { q with worker := .busy a, items := rest } [.started a]
  | stopped {rest : List (QueueItem α)} (hw : q.worker = .idle) (hitems : q.items = .stop :: rest) :
    MoveStep q { q with worker := .gone, items := rest, unfinished := q.unfinished - 1 } [.stopped]
  | ended {a : α} (hw : q.worker = .busy a) : MoveStep q q.finish [.ended a]
  | nothing : MoveStep q q []

theorem moveStep_submit (q : WorkQueue α) (a : α) :
    MoveStep q (q.move (.submit a)) (q.happens (.submit a)) := by
  cases hq : q.closed with
  | true =>
    simp only [move, happens, submit_of_closed hq]
    exact .refused a hq
  | false =>
    have hsubmit := submit_of_open hq a
    simp only [move, happens, hsubmit]
    exact .accepted a hsubmit

theorem moveStep_close (q : WorkQueue α) (wait : Bool) :
    MoveStep q (q.move (.close wait)) (q.happens (.close wait)) := by
  cases hq : q.closed with
  | true =>
    have hsame := close_of_closed hq
    have hstep := MoveStep.closed (congrArg items hsame) (congrArg unfinished hsame)
    simpa [move, happens, hsame] using hstep
  | false =>
    cases hw : q.worker.isAbsent with
    | true =>
      have hclose : q.close = { q with closed := true } := by simp [close, hq, hw]
      have hstep := MoveStep.closed (q := q) (by rw [hclose]) (by rw [hclose])
      simpa [move, happens, hclose] using hstep
    | false =>
      have hclose : q.close =
          { q with closed := true, items := q.items ++ [.stop], unfinished := q.unfinished + 1 } := by
        simp [close, hq, hw]
      have hstep := MoveStep.marked hq (by rw [hclose]) (by rw [hclose])
      simpa [move, happens, hclose] using hstep

theorem moveStep_take (q : WorkQueue α) : MoveStep q (q.move .take) (q.happens .take) := by
  cases hw : q.worker with
  | absent | busy | gone =>
    simp only [move, happens, take, hw]
    exact .nothing
  | idle =>
    cases hitems : q.items with
    | nil =>
      simp only [move, happens, take, hw, hitems]
      exact .nothing
    | cons item rest =>
      cases item with
      | job a =>
        simp only [move, happens, take, hw, hitems]
        exact .started hw hitems
      | stop =>
        simp only [move, happens, take, hw, hitems]
        exact .stopped hw hitems

theorem moveStep_finish (q : WorkQueue α) (fault : Option Fault) :
    MoveStep q (q.move (.finish fault)) (q.happens (.finish fault)) := by
  cases hw : q.worker with
  | busy a =>
    have hstep := MoveStep.ended hw
    simpa [move, happens, running, hw] using hstep
  | absent | idle | gone =>
    simp only [move, happens, running, finish, hw]
    exact .nothing

theorem moveStep (q : WorkQueue α) (m : QueueMove α) : MoveStep q (q.move m) (q.happens m) := by
  cases m with
  | submit a => exact moveStep_submit q a
  | close wait => exact moveStep_close q wait
  | take => exact moveStep_take q
  | finish fault => exact moveStep_finish q fault

theorem running_submit (h : q.submit a = .ok q') : q'.running = q.running := by
  rw [submit_of_open (closed_eq_false_of_submit h), Except.ok.injEq] at h
  subst h
  cases hw : q.worker <;> simp [running, Worker.started, hw]

theorem running_close (q : WorkQueue α) : q.close.running = q.running := by
  rw [running, running, worker_close]

namespace MoveStep

/-- Jobs come in behind those that wait, and leave at the front. -/
theorem waitingJobs_append (h : MoveStep q q' events) :
    q.waitingJobs ++ events.filterMap QueueEvent.accepted? =
      events.filterMap QueueEvent.started? ++ q'.waitingJobs := by
  cases h with
  | accepted a h => exact (waitingJobs_submit h).symm
  | closed | marked =>
    rw [waitingJobs_close]
    apply List.append_nil
  | started hw hitems | stopped hw hitems =>
    simp [waitingJobs, hitems, QueueItem.job?, List.filterMap_cons, QueueEvent.accepted?,
      QueueEvent.started?]
  | ended =>
    rw [waitingJobs_finish]
    apply List.append_nil
  | refused | nothing => apply List.append_nil

/-- A job is started when none is running, and ends when it is the one that runs. -/
theorem running_append (h : MoveStep q q' events) :
    q.running ++ events.filterMap QueueEvent.started? =
      events.filterMap QueueEvent.ended? ++ q'.running := by
  cases h with
  | accepted a h =>
    rw [running_submit h]
    apply List.append_nil
  | closed | marked =>
    rw [running_close]
    apply List.append_nil
  | started hw | stopped hw =>
    simp [running, hw, List.filterMap_cons, QueueEvent.started?, QueueEvent.ended?]
  | ended hw =>
    simp [running, finish, hw, List.filterMap_cons, QueueEvent.started?, QueueEvent.ended?]
  | refused | nothing => apply List.append_nil

theorem unfinished_eq (h : MoveStep q q' events)
    (hq : q.unfinished = q.items.length + q.running.length) :
    q'.unfinished = q'.items.length + q'.running.length := by
  cases h with
  | accepted a h =>
    have hrunning := running_submit h
    rw [submit_of_open (closed_eq_false_of_submit h), Except.ok.injEq] at h
    rw [hrunning, ← h, hq]
    simp only [List.length_append, List.length_singleton]
    omega
  | closed hitems hcount => rw [hcount, hitems, running_close, hq]
  | marked _ hitems hcount =>
    rw [hcount, hitems, running_close, hq, List.length_append, List.length_singleton]
    omega
  | started hw hitems => simpa [running, hw, hitems] using hq
  | stopped hw hitems => simp [running, hw, hitems, hq]
  | ended hw => simp [running, finish, hw, hq]
  | refused | nothing => exact hq

theorem isSerial (h : MoveStep q q' events) (hq : q.IsSerial) : q'.IsSerial := by
  cases h with
  | accepted a h => exact isSerial_submit hq h
  | closed | marked => exact isSerial_close hq
  | started hw hitems =>
    have htake := isSerial_take hq
    simpa only [take, hw, hitems] using htake
  | stopped hw hitems =>
    have htake := isSerial_take hq
    simpa only [take, hw, hitems] using htake
  | ended => exact isSerial_finish hq
  | refused | nothing => exact hq

theorem name_eq (h : MoveStep q q' events) : q'.name = q.name := by
  cases h with
  | accepted a h => exact name_submit h
  | closed | marked => exact name_close q
  | ended => exact name_finish q
  | refused | started | stopped | nothing => rfl

end MoveStep

end WorkQueue

/-! ## The log -/

namespace QueueRun

variable {α : Type} {name : Text} {r : QueueRun α} {q : WorkQueue α} {e : QueueEvent α}
  {log events : List (QueueEvent α)}

/-- Whether a log tells who has been let in: every event fits what comes before it, and the queue is
closed if a closing is there. -/
structure Admits (name : Text) (log : List (QueueEvent α)) (q : WorkQueue α) : Prop where
  fits : IsFitting (QueueEvent.Fits name) log
  closed_iff : q.closed = true ↔ .closing ∈ log
  /-- Only a closing puts in a marker. -/
  closed_of_marked : .marked ∈ log → q.closed = true

theorem admits_opened (name : Text) : Admits name [] (.opened name : WorkQueue α) where
  fits := isFitting_nil _
  closed_iff := by simp [WorkQueue.opened]
  closed_of_marked := nofun

/-- An event that has nothing to do with closing. -/
theorem Admits.concat (h : Admits name log q) {q' : WorkQueue α} (he : e.Fits name log)
    (hclosing : e ≠ .closing) (hmarked : e ≠ .marked) (hq : q'.closed = q.closed) :
    Admits name (log ++ [e]) q' where
  fits := isFitting_concat_iff.mpr ⟨h.fits, he⟩
  closed_iff := by simp [hq, h.closed_iff, hclosing.symm]
  closed_of_marked := by
    intro hmem
    rw [hq]
    apply h.closed_of_marked
    simpa [hmarked.symm] using hmem

theorem Admits.append (h : Admits name log q) (hq : q.name = name) {q' : WorkQueue α}
    (hs : WorkQueue.MoveStep q q' events) : Admits name (log ++ events) q' := by
  have hclosing : IsFitting (QueueEvent.Fits name) (log ++ [.closing]) :=
    isFitting_concat_iff.mpr ⟨h.fits, trivial⟩
  cases hs with
  | accepted a hsubmit =>
    have hopen := WorkQueue.closed_eq_false_of_submit hsubmit
    have hfits : QueueEvent.Fits name log (.accepted a) := by
      intro hmem
      simp [h.closed_iff.mpr hmem] at hopen
    rw [WorkQueue.submit_of_open hopen, Except.ok.injEq] at hsubmit
    apply h.concat hfits nofun nofun
    rw [← hsubmit]
  | refused a hclosed =>
    rw [hq]
    exact h.concat ⟨h.closed_iff.mp hclosed, rfl⟩ nofun nofun rfl
  | closed => exact ⟨hclosing, by simp, by simp⟩
  | marked hopen =>
    have hunmarked : .marked ∉ log := fun hmem => by simp [h.closed_of_marked hmem] at hopen
    have hfits : QueueEvent.Fits name (log ++ [.closing]) .marked :=
      ⟨by simp, by simpa using hunmarked⟩
    refine ⟨?_, by simp, by simp⟩
    rw [← List.singleton_append, ← List.append_assoc]
    exact isFitting_concat_iff.mpr ⟨hclosing, hfits⟩
  | started | stopped => exact h.concat trivial nofun nofun rfl
  | ended hw => exact h.concat trivial nofun nofun (WorkQueue.closed_finish q)
  | nothing =>
    rw [List.append_nil]
    exact h

theorem accepted_move (r : QueueRun α) (m : QueueMove α) :
    (r.move m).accepted = r.accepted ++ (r.queue.happens m).filterMap QueueEvent.accepted? :=
  List.filterMap_append

theorem started_move (r : QueueRun α) (m : QueueMove α) :
    (r.move m).started = r.started ++ (r.queue.happens m).filterMap QueueEvent.started? :=
  List.filterMap_append

theorem ended_move (r : QueueRun α) (m : QueueMove α) :
    (r.move m).ended = r.ended ++ (r.queue.happens m).filterMap QueueEvent.ended? :=
  List.filterMap_append

/-! ## The invariant -/

/-- Whether a log tells what became of a queue. -/
structure IsLogged (name : Text) (r : QueueRun α) : Prop where
  serial : r.queue.IsSerial
  name_eq : r.queue.name = name
  admits : Admits name r.log r.queue
  accepted_eq : r.accepted = r.started ++ r.queue.waitingJobs
  started_eq : r.started = r.ended ++ r.queue.running
  unfinished_eq : r.queue.unfinished = r.queue.items.length + r.queue.running.length

theorem isLogged_opened (name : Text) : (opened name : QueueRun α).IsLogged name where
  serial := WorkQueue.isSerial_opened name
  name_eq := rfl
  admits := admits_opened name
  accepted_eq := rfl
  started_eq := rfl
  unfinished_eq := rfl

theorem IsLogged.move (h : r.IsLogged name) (m : QueueMove α) : (r.move m).IsLogged name := by
  have hs := r.queue.moveStep m
  refine ⟨hs.isSerial h.serial, hs.name_eq.trans h.name_eq, h.admits.append h.name_eq hs, ?_, ?_,
    hs.unfinished_eq h.unfinished_eq⟩
  · calc (r.move m).accepted
      _ = r.started ++ (r.queue.waitingJobs ++
          (r.queue.happens m).filterMap QueueEvent.accepted?) := by
        rw [accepted_move, h.accepted_eq, List.append_assoc]
      _ = (r.move m).started ++ (r.queue.move m).waitingJobs := by
        rw [hs.waitingJobs_append, started_move, List.append_assoc]
  · calc (r.move m).started
      _ = r.ended ++ (r.queue.running ++ (r.queue.happens m).filterMap QueueEvent.started?) := by
        rw [started_move, h.started_eq, List.append_assoc]
      _ = (r.move m).ended ++ (r.queue.move m).running := by
        rw [hs.running_append, ended_move, List.append_assoc]

theorem IsLogged.run (h : r.IsLogged name) (moves : List (QueueMove α)) :
    (r.run moves).IsLogged name := by
  induction moves generalizing r with
  | nil => exact h
  | cons m moves ih => exact ih (h.move m)

/-! ## The main statement -/

/-- What holds of a queue of a name at every moment. -/
structure TakesTurns (name : Text) (r : QueueRun α) : Prop where
  /-- A submission is accepted exactly if nobody has closed the queue. -/
  accepts_iff (a : α) : (∃ q, r.queue.submit a = .ok q) ↔ .closing ∉ r.log
  /-- One that comes later raises, and changes nothing. -/
  refuses (a : α) : .closing ∈ r.log → r.queue.submit a = .error (.queueClosed name) ∧
    r.move (.submit a) = ⟨r.queue, r.log ++ [.refused a (.queueClosed name)]⟩
  /-- So it was with every submission so far, and a marker was put in with the first closing. -/
  fits {before after : List (QueueEvent α)} {e : QueueEvent α} :
    r.log = before ++ e :: after → e.Fits name before
  marked_once : r.log.countP QueueEvent.isMarked ≤ 1
  /-- Nothing is behind the stop marker. -/
  stop {before after : List (QueueItem α)} : r.queue.items = before ++ .stop :: after → after = []
  /-- Jobs are started in the order in which they were accepted. -/
  started : r.accepted = r.started ++ r.queue.waitingJobs
  /-- They end in that order too, and at most one of them is running. -/
  ended : r.started = r.ended ++ r.queue.running
  running : r.queue.running.length ≤ 1
  unfinished : r.queue.unfinished = r.queue.items.length + r.queue.running.length
  /-- When the worker has gone, every accepted job has run, once and in its turn. -/
  gone : r.queue.worker = .gone → r.ended = r.accepted ∧ r.queue.items = []

theorem length_running_le_one (q : WorkQueue α) : q.running.length ≤ 1 := by
  unfold WorkQueue.running
  split <;> simp

theorem countP_isMarked_le_one (h : IsFitting (QueueEvent.Fits name) log) :
    log.countP QueueEvent.isMarked ≤ 1 := by
  induction log using List.reverseRecOn with
  | nil => apply Nat.zero_le
  | append_singleton log e ih =>
    obtain ⟨hlog, he⟩ := isFitting_concat_iff.mp h
    rw [List.countP_append, List.countP_singleton]
    cases e with
    | marked =>
      obtain ⟨-, hunmarked⟩ := he
      have hzero : log.countP QueueEvent.isMarked = 0 := by
        rw [List.countP_eq_zero]
        intro e he hmarked
        cases e <;> simp_all [QueueEvent.isMarked]
      simp [hzero, QueueEvent.isMarked]
    | _ => exact ih hlog

theorem IsLogged.takesTurns (h : r.IsLogged name) : r.TakesTurns name where
  accepts_iff := by
    intro a
    rw [← h.admits.closed_iff]
    cases hq : r.queue.closed with
    | true => simp [WorkQueue.submit_of_closed hq]
    | false => simp [WorkQueue.submit_of_open hq]
  refuses := by
    intro a hmem
    have hq := h.admits.closed_iff.mpr hmem
    have hsubmit := WorkQueue.submit_of_closed hq a
    rw [h.name_eq] at hsubmit
    refine ⟨hsubmit, ?_⟩
    simp only [QueueRun.move, WorkQueue.move, WorkQueue.happens, hsubmit]
  fits := h.admits.fits _ _ _
  marked_once := countP_isMarked_le_one h.admits.fits
  stop := fun hitems => (h.serial.stop hitems).1
  started := h.accepted_eq
  ended := h.started_eq
  running := length_running_le_one r.queue
  unfinished := h.unfinished_eq
  gone := by
    intro hw
    have hitems := (h.serial.gone hw).1
    refine ⟨?_, hitems⟩
    rw [h.accepted_eq, h.started_eq]
    simp [WorkQueue.waitingJobs, WorkQueue.running, hitems, hw]

theorem run_append (r : QueueRun α) (moves moves' : List (QueueMove α)) :
    r.run (moves ++ moves') = (r.run moves).run moves' := List.foldl_append

end QueueRun

end SubscriptionClient
