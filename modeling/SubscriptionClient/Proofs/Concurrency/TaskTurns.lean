import SubscriptionClient.Concurrency.Task
import SubscriptionClient.Proofs.Concurrency.Turns

/-!
# Tasks in their turn

Tasks are jobs that may submit others, close the queue and fail. Every run of tasks is a run of
their queue: the tasks that have run are the jobs that ended there, so they run in the order in which
they were accepted and each of them once. After each action the worker goes on until it has nothing
to do or is held.
-/

namespace SubscriptionClient

/-- Whether a move is one that a running job may make. -/
def QueueMove.isRequest {α : Type} : QueueMove α → Bool
  | submit _ | close _ => true
  | _ => false

namespace QueueRun

variable {α : Type} {r : QueueRun α} {moves : List (QueueMove α)}

theorem started?_happens (q : WorkQueue α) {m : QueueMove α} (hm : m.isRequest = true) :
    (q.happens m).filterMap QueueEvent.started? = [] ∧
      (q.happens m).filterMap QueueEvent.ended? = [] := by
  cases m with
  | submit a =>
    simp only [WorkQueue.happens]
    split <;> exact ⟨rfl, rfl⟩
  | close wait =>
    simp only [WorkQueue.happens]
    split <;> exact ⟨rfl, rfl⟩
  | take | finish => simp [QueueMove.isRequest] at hm

theorem ended?_happens_take (q : WorkQueue α) :
    (q.happens .take).filterMap QueueEvent.ended? = [] := by
  simp only [WorkQueue.happens]
  split <;> rfl

theorem ended_run_of_requests (h : ∀ m ∈ moves, m.isRequest = true) :
    (r.run moves).ended = r.ended ∧ (r.run moves).queue.running = r.queue.running := by
  induction moves generalizing r with
  | nil => exact ⟨rfl, rfl⟩
  | cons m moves ih =>
    obtain ⟨hm, hmoves⟩ := List.forall_mem_cons.mp h
    obtain ⟨hended, hrunning⟩ := ih (r := r.move m) hmoves
    obtain ⟨hstart, hend⟩ := started?_happens r.queue hm
    have hnext := (r.queue.moveStep m).running_append
    rw [hstart, hend, List.append_nil, List.nil_append] at hnext
    refine ⟨hended.trans ?_, hrunning.trans hnext.symm⟩
    rw [ended_move, hend, List.append_nil]

end QueueRun

namespace TaskRun

variable {name : Text} {r : TaskRun} {q : QueueRun Task} {ran : List Task} {t : Task}

def after (name : Text) (actions : List Action) : TaskRun :=
  actions.foldl (fun r a => (r.step a).1) (start name)

/-- What a task notes when it runs. -/
def runNote (name : Text) (t : Task) : Note := ⟨t.label, name⟩

/-- Whether a queue has come about by its moves, with these tasks having noted that they run. -/
structure RunsIn (name : Text) (q : QueueRun Task) (ran : List Task) (r : TaskRun) : Prop where
  moves : ∃ moves, q = (QueueRun.opened name).run moves
  queue : r.queue = q.queue
  notes : r.notes.filter (·.remark == name) = ran.map (runNote name)

theorem queueClosedMessage_ne (name : Text) : Fault.queueClosedMessage name ≠ name := by
  intro h
  have hlength := congrArg List.length h
  have hpositive : 0 < "Operation queue '".toText.length := by decide
  simp only [Fault.queueClosedMessage, List.length_append] at hlength
  omega

namespace RunsIn

theorem name_eq (h : RunsIn name q ran r) : r.queue.name = name := by
  obtain ⟨moves, hmoves⟩ := h.moves
  rw [h.queue, hmoves]
  exact ((QueueRun.isLogged_opened name).run moves).name_eq

/-- The queue of a run of tasks makes a move. -/
theorem move (h : RunsIn name q ran r) (m : QueueMove Task) :
    RunsIn name (q.move m) ran { r with queue := r.queue.move m } where
  moves := by
    obtain ⟨moves, hmoves⟩ := h.moves
    refine ⟨moves ++ [m], ?_⟩
    rw [QueueRun.run_append, ← hmoves]
    rfl
  queue := by
    rw [h.queue]
    rfl
  notes := h.notes

theorem spawn (h : RunsIn name q ran r) (t : Task) :
    RunsIn name (q.move (.submit t)) ran (r.spawn t) := by
  have hmove := h.move (.submit t)
  cases hq : r.queue.closed with
  | false =>
    simpa only [TaskRun.spawn, WorkQueue.move, WorkQueue.submit_of_open hq] using hmove
  | true =>
    have hremark : (Fault.queueClosedMessage r.queue.name == name) = false := by
      rw [h.name_eq, beq_eq_false_iff_ne]
      apply queueClosedMessage_ne
    have hsubmit := WorkQueue.submit_of_closed hq t
    refine ⟨hmove.moves, ?_, ?_⟩
    · rw [← hmove.queue]
      simp only [TaskRun.spawn, WorkQueue.move, hsubmit, TaskRun.note, Fault.message?,
        Option.map_some, Option.getD_some]
    · simp only [TaskRun.spawn, hsubmit, TaskRun.note, List.filter_append, Fault.message?,
        Option.map_some, Option.getD_some]
      simp [hremark, h.notes]

theorem spawnAll (h : RunsIn name q ran r) (ts : List Task) :
    RunsIn name (q.run (ts.map .submit)) ran (ts.foldl TaskRun.spawn r) := by
  induction ts generalizing q r with
  | nil => exact h
  | cons t ts ih => exact ih (h.spawn t)

/-- What a task asks of its queue while it runs. -/
def requestsOf (t : Task) : List (QueueMove Task) :=
  (if t.closes then [.close true] else []) ++ t.spawns.map .submit

theorem isRequest_of_mem_requestsOf {m : QueueMove Task} (h : m ∈ requestsOf t) :
    m.isRequest = true := by
  rcases List.mem_append.mp h with h | h
  · split at h
    · obtain rfl := List.mem_singleton.mp h
      rfl
    · cases h
  · obtain ⟨s, -, rfl⟩ := List.mem_map.mp h
    rfl

theorem perform (h : RunsIn name q ran r) (t : Task) :
    RunsIn name (q.run (requestsOf t)) (ran ++ [t]) (r.perform t) := by
  have hnoted : RunsIn name q (ran ++ [t]) (r.note t.label r.queue.name) := by
    refine ⟨h.moves, h.queue, ?_⟩
    simp only [TaskRun.note, List.filter_append, h.notes, h.name_eq]
    simp [runNote]
  unfold TaskRun.perform requestsOf
  cases hc : t.closes with
  | false => exact hnoted.spawnAll t.spawns
  | true => exact (hnoted.move (.close true)).spawnAll t.spawns

/-- The worker finishes the task that it has performed. -/
theorem finish (h : RunsIn name q q.ended r) (hw : r.queue.worker = .busy t) :
    ∃ q', RunsIn name q' q'.ended
      { r.perform t with queue := (r.perform t).queue.finish } := by
  obtain ⟨hended, hrunning⟩ := QueueRun.ended_run_of_requests (r := q)
    (fun m hm => isRequest_of_mem_requestsOf (t := t) hm)
  have hperformed := (h.perform t).move (.finish none)
  have hrun : q.queue.running = [t] := by simp [← h.queue, WorkQueue.running, hw]
  refine ⟨(q.run (requestsOf t)).move (.finish none), ?_⟩
  rw [QueueRun.ended_move, hended]
  have hends : ((q.run (requestsOf t)).queue.happens (.finish none)).filterMap
      QueueEvent.ended? = [t] := by
    simp [WorkQueue.happens, hrunning, hrun, QueueEvent.ended?]
  rw [hends]
  exact hperformed

theorem work (h : RunsIn name q q.ended r) : ∃ q', RunsIn name q' q'.ended r.work := by
  have htake : ∃ q', RunsIn name q' q'.ended { r with queue := r.queue.take } := by
    refine ⟨q.move .take, ?_⟩
    rw [QueueRun.ended_move, QueueRun.ended?_happens_take, List.append_nil]
    exact h.move .take
  cases hw : r.queue.worker with
  | busy t =>
    simp only [TaskRun.work, hw]
    split
    · exact ⟨q, h⟩
    · exact h.finish hw
  | absent | idle | gone =>
    simp only [TaskRun.work, hw]
    exact htake

theorem steps (h : RunsIn name q q.ended r) (n : Nat) :
    ∃ q', RunsIn name q' q'.ended (TaskRun.steps n r) := by
  induction n generalizing q r with
  | zero => exact ⟨q, h⟩
  | succ n ih =>
    obtain ⟨q', h'⟩ := h.work
    exact ih h'

theorem act (h : RunsIn name q q.ended r) (a : Action) :
    ∃ q', RunsIn name q' q'.ended (r.act a).1 := by
  cases a with
  | submit t =>
    refine ⟨q.move (.submit t), ?_⟩
    have hends := (QueueRun.started?_happens q.queue (m := .submit t) rfl).2
    have hmove := h.move (.submit t)
    rw [QueueRun.ended_move, hends, List.append_nil]
    cases hq : r.queue.closed with
    | false => simpa only [TaskRun.act, WorkQueue.move, WorkQueue.submit_of_open hq] using hmove
    | true => simpa only [TaskRun.act, WorkQueue.move, WorkQueue.submit_of_closed hq] using hmove
  | close wait =>
    refine ⟨q.move (.close wait), ?_⟩
    have hends := (QueueRun.started?_happens q.queue (m := .close wait) rfl).2
    rw [QueueRun.ended_move, hends, List.append_nil]
    exact h.move (.close wait)
  | hold | release | join => exact ⟨q, h.moves, h.queue, h.notes⟩

theorem step (h : RunsIn name q q.ended r) (a : Action) :
    ∃ q', RunsIn name q' q'.ended (r.step a).1 := by
  obtain ⟨q', h'⟩ := h.act a
  exact h'.steps _

end RunsIn

theorem runsIn_start (name : Text) : RunsIn name (.opened name) [] (start name) :=
  ⟨⟨[], rfl⟩, rfl, rfl⟩

theorem exists_runsIn (name : Text) (actions : List Action) :
    ∃ q, RunsIn name q q.ended (after name actions) := by
  have hall : ∀ r q, RunsIn name q q.ended r →
      ∃ q', RunsIn name q' q'.ended (actions.foldl (fun r a => (r.step a).1) r) := by
    induction actions with
    | nil => exact fun r q h => ⟨q, h⟩
    | cons a actions ih =>
      intro r q h
      obtain ⟨q', h'⟩ := h.step a
      exact ih _ _ h'
  exact hall _ _ (runsIn_start name)

/-! ## How far the worker goes -/

variable {n : Nat}

/-- Whether the worker can do nothing at the moment. -/
def IsAtRest (r : TaskRun) : Prop :=
  match r.queue.worker with
  | .busy _ => r.held = true
  | .idle => r.queue.items = []
  | .absent | .gone => True

theorem work_of_isAtRest (h : r.IsAtRest) : r.work = r := by
  unfold IsAtRest at h
  cases hw : r.queue.worker with
  | busy t =>
    simp only [hw] at h
    simp [TaskRun.work, hw, h]
  | idle =>
    simp only [hw] at h
    simp [TaskRun.work, WorkQueue.take, hw, h]
  | absent | gone => simp [TaskRun.work, WorkQueue.take, hw]

theorem steps_of_isAtRest (h : r.IsAtRest) (n : Nat) : steps n r = r := by
  induction n with
  | zero => rfl
  | succ n ih => rw [steps, work_of_isAtRest h, ih]

theorem size_pos (t : Task) : 0 < t.size := by
  cases t
  rw [Task.size]
  omega

theorem itemsSize_append (items items' : List (QueueItem Task)) :
    itemsSize (items ++ items') = itemsSize items + itemsSize items' := by
  induction items with
  | nil => exact (Nat.zero_add _).symm
  | cons item items ih => rw [List.cons_append, itemsSize, itemsSize, ih, Nat.add_assoc]

theorem worker_spawn (hw : r.queue.worker = .busy t) (s : Task) :
    (r.spawn s).queue.worker = .busy t := by
  cases hq : r.queue.closed with
  | false => simp [spawn, WorkQueue.submit_of_open hq, Worker.started, hw]
  | true => simp [spawn, WorkQueue.submit_of_closed hq, note, Fault.message?, hw]

/-- A task that is put in adds the steps that it leads to, and none if it is refused. -/
theorem remaining_spawn_le (hw : r.queue.worker = .busy t) (s : Task) :
    (r.spawn s).remaining ≤ r.remaining + 2 * s.size := by
  cases hq : r.queue.closed with
  | false =>
    simp only [spawn, WorkQueue.submit_of_open hq, remaining, hw, hq, Worker.started,
      itemsSize_append, itemsSize, itemSize]
    omega
  | true => simp [spawn, WorkQueue.submit_of_closed hq, note, Fault.message?, remaining, hw]

theorem remaining_spawnAll_le (hw : r.queue.worker = .busy t) (ts : List Task) :
    (ts.foldl spawn r).queue.worker = .busy t ∧
      (ts.foldl spawn r).remaining ≤ r.remaining + 2 * Task.sizeAll ts := by
  induction ts generalizing r with
  | nil => exact ⟨hw, Nat.le_refl _⟩
  | cons s ts ih =>
    obtain ⟨hworker, hle⟩ := ih (worker_spawn hw s)
    have hspawn := remaining_spawn_le hw s
    refine ⟨hworker, ?_⟩
    rw [Task.sizeAll, List.foldl_cons]
    omega

/-- The marker of a closing has been counted before. -/
theorem remaining_close_le (hw : r.queue.worker = .busy t) :
    ({ r with queue := r.queue.close } : TaskRun).remaining ≤ r.remaining := by
  cases hq : r.queue.closed with
  | true => rw [WorkQueue.close_of_closed hq]
  | false =>
    simp only [remaining, WorkQueue.close, Worker.isAbsent, hw, hq, itemsSize_append, itemsSize,
      itemSize, Bool.false_eq_true, if_false, if_true]
    omega

theorem remaining_perform_le (hw : r.queue.worker = .busy t) :
    (r.perform t).queue.worker = .busy t ∧
      (r.perform t).remaining ≤ r.remaining + 2 * Task.sizeAll t.spawns := by
  unfold perform
  cases t.closes with
  | false => exact remaining_spawnAll_le (r := r.note t.label r.queue.name) hw t.spawns
  | true =>
    have hclose := remaining_close_le (r := r.note t.label r.queue.name) hw
    obtain ⟨hworker, hle⟩ := remaining_spawnAll_le
      (r := { r.note t.label r.queue.name with queue := r.queue.close })
      ((WorkQueue.worker_close r.queue).trans hw) t.spawns
    exact ⟨hworker, hle.trans (Nat.add_le_add_right hclose _)⟩

/-- Every step takes the worker nearer to its rest. -/
theorem remaining_work_lt (h : ¬r.IsAtRest) : r.work.remaining < r.remaining := by
  unfold IsAtRest at h
  cases hw : r.queue.worker with
  | busy t =>
    simp only [hw] at h
    obtain ⟨hworker, hle⟩ := remaining_perform_le hw
    have hsize : t.size = 1 + Task.sizeAll t.spawns := by cases t; rfl
    have hfinish : ({ r.perform t with queue := (r.perform t).queue.finish } : TaskRun).remaining +
        (2 * t.size - 1) = (r.perform t).remaining := by
      simp only [remaining, WorkQueue.finish, hworker]
      omega
    have hwork : r.work = { r.perform t with queue := (r.perform t).queue.finish } := by
      simp [TaskRun.work, hw, h]
    rw [hwork]
    omega
  | idle =>
    simp only [hw] at h
    obtain ⟨item, rest, hitems⟩ := List.exists_cons_of_ne_nil h
    cases item with
    | job s =>
      have hpos := size_pos s
      simp only [TaskRun.work, WorkQueue.take, remaining, hw, hitems, itemsSize, itemSize]
      omega
    | stop =>
      simp only [TaskRun.work, WorkQueue.take, remaining, hw, hitems, itemsSize, itemSize]
      omega
  | absent | gone =>
    simp only [hw] at h
    exact (h trivial).elim

theorem isAtRest_steps (h : r.remaining ≤ n) : (steps n r).IsAtRest := by
  induction n generalizing r with
  | zero =>
    by_contra hbusy
    have hlt := remaining_work_lt (r := r) hbusy
    omega
  | succ n ih =>
    by_cases hrest : r.IsAtRest
    · rwa [steps_of_isAtRest hrest]
    · have hlt := remaining_work_lt hrest
      exact ih (by omega)

/-- After an action the worker goes on until it has nothing to do or is held. -/
theorem isAtRest_advance (r : TaskRun) : r.advance.IsAtRest := isAtRest_steps (Nat.le_refl _)

theorem isAtRest_after (name : Text) (actions : List Action) : (after name actions).IsAtRest := by
  induction actions using List.reverseRecOn with
  | nil => trivial
  | append_singleton actions a =>
    rw [after, List.foldl_append]
    exact isAtRest_advance _

/-- Whoever waits for the queue after an action does not have to, unless it is held. -/
theorem isJoined_after {actions : List Action} (h : (after name actions).held = false) :
    (after name actions).queue.isJoined = true := by
  obtain ⟨q, ⟨moves, rfl⟩, hqueue, -⟩ := exists_runsIn name actions
  have hlogged := (QueueRun.isLogged_opened name).run moves
  have hrest := isAtRest_after name actions
  generalize (QueueRun.opened name).run moves = q at hqueue hlogged
  rw [IsAtRest, hqueue] at hrest
  have hitems : q.queue.items = [] ∧ q.queue.running = [] := by
    cases hw : q.queue.worker with
    | busy t =>
      simp only [hw] at hrest
      cases hrest.symm.trans h
    | idle =>
      simp only [hw] at hrest
      exact ⟨hrest, by simp [WorkQueue.running, hw]⟩
    | absent => exact ⟨hlogged.serial.absent hw, by simp [WorkQueue.running, hw]⟩
    | gone => exact ⟨(hlogged.serial.gone hw).1, by simp [WorkQueue.running, hw]⟩
  have hcount := hlogged.unfinished_eq
  rw [hitems.1, hitems.2] at hcount
  rw [hqueue, WorkQueue.isJoined, hcount]
  rfl

end TaskRun

/-- A queue takes turns whatever is done with it, and so does every queue that tasks make use of: it
has come about by such moves, and what the tasks note when they run are the jobs that ended, in their
order. -/
theorem jobs_take_turns (name : Text) :
    (∀ (α : Type) (moves : List (QueueMove α)),
      ((QueueRun.opened name).run moves).TakesTurns name) ∧
    ∀ actions : List TaskRun.Action, ∃ (moves : List (QueueMove Task)) (q : QueueRun Task),
      q = (QueueRun.opened name).run moves ∧ q.TakesTurns name ∧
      (TaskRun.after name actions).queue = q.queue ∧
      (TaskRun.after name actions).notes.filter (·.remark == name) =
        q.ended.map (TaskRun.runNote name) := by
  have hall {α : Type} (moves : List (QueueMove α)) :
      ((QueueRun.opened name).run moves).TakesTurns name :=
    ((QueueRun.isLogged_opened name).run moves).takesTurns
  refine ⟨fun _ => hall, fun actions => ?_⟩
  obtain ⟨q, ⟨moves, hmoves⟩, hqueue, hnotes⟩ := TaskRun.exists_runsIn name actions
  exact ⟨moves, q, hmoves, hmoves ▸ hall moves, hqueue, hnotes⟩

-- A job submits another one, a caller closes the queue while the second one runs, and a third one
-- comes too late.
example :
    let r : QueueRun Nat := (QueueRun.opened "requests".toText).run
      [.submit 1, .take, .submit 2, .finish none, .take, .close true, .submit 3, .finish none, .take]
    r.accepted = [1, 2] ∧ r.started = [1, 2] ∧ r.ended = [1, 2] ∧ r.queue.worker.isGone = true := by
  decide

example :
    let r := TaskRun.after "requests".toText
      [.submit (.mk "first".toText false [.mk "second".toText true [] false] true)]
    r.notes = [⟨"first".toText, "requests".toText⟩, ⟨"second".toText, "requests".toText⟩] ∧
      r.queue.worker.isGone = true := by
  decide

end SubscriptionClient
