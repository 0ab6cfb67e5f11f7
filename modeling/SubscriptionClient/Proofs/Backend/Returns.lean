import SubscriptionClient.Proofs.Backend.Closing
import SubscriptionClient.Proofs.Concurrency.TaskTurns

/-!
# When closing returns

Each step of a backend is a move of its queue or leaves the queue alone. So what holds of waiting
closes of a queue holds of the backend's: the first one returns when everything that was accepted
has been served, and a later one at once.
-/

namespace SubscriptionClient

namespace Backend

variable {E : Surroundings} {headers : List (Text × Text)} {clearable : Bool} {name : Text}
  {b c : Backend} {q : QueueRun Job}

/-! ## The queue of a backend -/

/-- Whether a queue has gone through the same as that of a backend. -/
structure Tracks (q : QueueRun Job) (b : Backend) : Prop where
  queue : b.queue = q.queue
  accepted : b.accepted = q.accepted

theorem Tracks.kept (h : Tracks q b) (hq : c.queue = b.queue) (ha : c.accepted = b.accepted) :
    ∃ moves, Tracks (q.run moves) c :=
  ⟨[], hq.trans h.queue, ha.trans h.accepted⟩

theorem Tracks.moved (h : Tracks q b) (m : QueueMove Job) (hq : c.queue = b.queue.move m)
    (ha : c.accepted = b.accepted ++ (b.queue.happens m).filterMap QueueEvent.accepted?) :
    ∃ moves, Tracks (q.run moves) c := by
  refine ⟨[m], ?_, ?_⟩
  · rw [hq, h.queue]
    rfl
  · rw [ha, h.accepted, h.queue]
    exact (QueueRun.accepted_move q m).symm

/-- A move that lets no job in. -/
theorem Tracks.worked (h : Tracks q b) (m : QueueMove Job) (hm : ∀ job, m ≠ .submit job)
    (hq : c.queue = b.queue.move m) (ha : c.accepted = b.accepted) :
    ∃ moves, Tracks (q.run moves) c := by
  refine h.moved m hq (ha.trans ?_)
  rw [WorkQueue.accepted?_happens b.queue hm, List.append_nil]

theorem Tracks.finished (h : Tracks q b) (hq : c.queue = b.queue.finish)
    (ha : c.accepted = b.accepted) : ∃ moves, Tracks (q.run moves) c :=
  h.worked (.finish none) (by simp) hq ha

theorem Tracks.closed (h : Tracks q b) : Tracks (q.move (.close true)) b.shutDown where
  queue := congrArg WorkQueue.close h.queue
  accepted := h.accepted.trans (QueueRun.accepted_move_close q true).symm

theorem Tracks.answer (h : Tracks q b) (job : Job) (r : Response) :
    ∃ moves, Tracks (q.run moves) (b.answer job r) := by
  rcases answer_queue_and_stage job r b with ⟨hq, -⟩ | ⟨hq, -⟩
  · exact h.kept hq (accepted_answer job r b)
  · exact h.finished hq (accepted_answer job r b)

theorem Tracks.step (h : Tracks q b) (hs : Step E b c) : ∃ moves, Tracks (q.run moves) c := by
  cases hs with
  | @accepted label job queue hb hq =>
    refine h.moved (.submit job) ?_ ?_
    · simp only [WorkQueue.move, hq]
      rfl
    · simp only [WorkQueue.happens, hq]
      exact accepted_record_accepted label job queue b
  | joined label => exact h.kept rfl (accepted_enrol label _ b)
  | refused label => exact h.kept rfl (accepted_refuse label _ b)
  | followed hf =>
    obtain ⟨t, future, -, -, rfl⟩ := exists_of_followedBy? hf
    exact h.kept rfl rfl
  | reported n =>
    obtain ⟨events, he⟩ := exists_noteDone_eq n b
    rw [he]
    exact h.kept rfl rfl
  | closed => exact ⟨[.close true], h.closed⟩
  | taken => exact h.worked .take (by simp) rfl rfl
  | unsent | replied => exact h.answer _ _
  | abandoned | finished => exact h.finished rfl rfl
  | raised | settled | cancelled | cleared | sent | delivered | passedOver => exact h.kept rfl rfl

theorem Tracks.reaches (h : Tracks q b) (hr : Reaches E b c) : ∃ moves, Tracks (q.run moves) c := by
  induction hr with
  | refl => exact ⟨[], h⟩
  | tail _ hs ih =>
    obtain ⟨moves, hmoves⟩ := ih
    obtain ⟨more, hmore⟩ := hmoves.step hs
    exact ⟨moves ++ more, QueueRun.run_append q moves more ▸ hmore⟩

theorem exists_tracks (h : Reaches E (start headers clearable name) b) :
    ∃ q : QueueRun Job, Tracks q b ∧ q.IsLogged name := by
  obtain ⟨moves, hmoves⟩ := Tracks.reaches (q := .opened name) ⟨rfl, rfl⟩ h
  exact ⟨_, hmoves, (QueueRun.isLogged_opened name).run moves⟩

/-! ## Where a waiting close returns -/

/-- Whether a caller who closes a backend and waits may go on in a later state. -/
structure ReturnsIn (E : Surroundings) (b c : Backend) : Prop where
  reaches : Reaches E b.shutDown c
  returns : b.queue.closeReturns true false c.queue = true

theorem Tracks.returnsIn (h : Tracks q b) (hr : b.ReturnsIn E c) :
    ∃ s, q.ReturnsIn s ∧ Tracks s c := by
  obtain ⟨moves, hmoves⟩ := h.closed.reaches hr.reaches
  refine ⟨_, ⟨moves, rfl, ?_⟩, hmoves⟩
  rw [← h.queue, ← hmoves.queue]
  exact hr.returns

theorem isResting_of_returns (hb : Reaches E (start headers clearable name) b)
    (hq : b.queue.closed = false) (hr : b.ReturnsIn E c) : c.isResting = true := by
  obtain ⟨q, hq', -⟩ := exists_tracks hb
  obtain ⟨s, hs, hc⟩ := hq'.returnsIn hr
  have hworker := QueueRun.worker_of_returns hs (hq'.queue ▸ hq)
  rw [← hc.queue] at hworker
  rcases hworker with hw | hw <;> simp [isResting, hw]

/-- The worker that a closing found comes to rest at the stop marker. -/
theorem gone_of_isResting (hb : Reaches E (start headers clearable name) b)
    (hq : b.queue.closed = false) (hw : b.queue.worker ≠ .absent) (hc : Reaches E b.shutDown c)
    (hr : c.isResting = true) : c.queue.worker = .gone := by
  obtain ⟨q, htracks, hlogged⟩ := exists_tracks hb
  obtain ⟨moves, hmoves⟩ := htracks.closed.reaches hc
  have hstop := QueueRun.run_of_closed (r := q.move (.close true)) (fun hs => hs.isStopping)
    (WorkQueue.closed_close q.queue)
    (WorkQueue.isStopping_close (htracks.queue ▸ hq) (htracks.queue ▸ hw)) moves
  have hserial := ((hlogged.move (.close true)).run moves).serial
  rw [← hmoves.queue] at hstop hserial
  -- a worker at rest that is still there would have no items, and so no marker
  refine hstop.resolve_right fun hmem => ?_
  cases hworker : c.queue.worker with
  | busy job => simp [isResting, hworker] at hr
  | idle =>
    have hitems : c.queue.items = [] := by simpa [isResting, hworker] using hr
    simp [hitems] at hmem
  | absent => simp [hserial.absent hworker] at hmem
  | gone => simp [(hserial.gone hworker).1] at hmem

/-! ## The main statement -/

/-- What holds of a backend when a caller closes it and waits. -/
structure HonoursWaiting (E : Surroundings) (headers : List (Text × Text)) (b : Backend) :
    Prop where
  /-- Its queue honours waiting, and each return is one of its queue. -/
  queue : ∃ q : QueueRun Job, q.HonoursWaiting ∧ Tracks q b ∧
    ∀ c, b.ReturnsIn E c → ∃ s, q.ReturnsIn s ∧ Tracks s c
  /-- No accepted job is running or waiting when the caller goes on, unless the queue was closed
  before with jobs left. -/
  settled_iff : (∀ c, b.ReturnsIn E c → c.accepted = b.accepted ∧ c.queue.IsDone) ↔
    (b.queue.closed = true → b.queue.IsDone)
  /-- Where every request has a response, all have been answered when the first caller goes on. -/
  served {c : Backend} : E.IsComplete → b.queue.closed = false → b.ReturnsIn E c →
    c.HasServed E headers b.accepted
  again : b.queue.closed = true → b.ReturnsIn E b.shutDown ∧ b.shutDown = b
  first {schedule : ℕ → Action} : b.queue.closed = false → (∀ i, E.Allows [schedule i]) →
    (∀ i, ∃ j, i ≤ j ∧ (schedule j).isWork = true) →
      ∃ i, b.ReturnsIn E (b.shutDown.after schedule i)

theorem shutDown_of_closed (hq : b.queue.closed = true) : b.shutDown = b := by
  rw [shutDown, WorkQueue.close_of_closed hq]

theorem returnsIn_shutDown (E : Surroundings) (hq : b.queue.closed = true) :
    b.ReturnsIn E b.shutDown :=
  ⟨.refl, WorkQueue.closeReturns_of_closed hq _⟩

theorem settled_of_returns (hb : Reaches E (start headers clearable name) b)
    (hr : b.ReturnsIn E c) (hsettled : b.queue.closed = true → b.queue.IsDone) :
    c.accepted = b.accepted ∧ c.queue.IsDone := by
  obtain ⟨q, htracks, hlogged⟩ := exists_tracks hb
  obtain ⟨s, hs, hc⟩ := htracks.returnsIn hr
  rw [hc.queue]
  refine ⟨?_, hlogged.isDone_of_returns hs (htracks.queue ▸ hsettled)⟩
  have hshut : Reaches E (start headers clearable name) b.shutDown :=
    hb.trans (reaches_shutDown E b)
  rw [← accepted_shutDown b]
  exact accepted_eq_of_closed (Reaches.isOrderly hshut) b.closed_shutDown hr.reaches

theorem exists_returnsIn (hb : Reaches E (start headers clearable name) b)
    (hq : b.queue.closed = false) {schedule : ℕ → Action} (hallows : ∀ i, E.Allows [schedule i])
    (hfair : ∀ i, ∃ j, i ≤ j ∧ (schedule j).isWork = true) :
    ∃ i, b.ReturnsIn E (b.shutDown.after schedule i) := by
  have hreaches (i : ℕ) : Reaches E b.shutDown (b.shutDown.after schedule i) :=
    reaches_run (allows_range hallows i) _
  by_cases hw : b.queue.worker = .absent
  · exact ⟨0, hreaches 0, (WorkQueue.closeReturns_of_open hq _).mpr (.inl hw)⟩
  · obtain ⟨i, hi⟩ := eventually_isResting b.closed_shutDown hfair
    have hgone := gone_of_isResting hb hq hw (hreaches i) (hi i (le_refl i))
    exact ⟨i, hreaches i, (WorkQueue.closeReturns_of_open hq _).mpr (.inr hgone)⟩

theorem honoursWaiting_of_reaches (hb : Reaches E (start headers clearable name) b) :
    b.HonoursWaiting E headers where
  queue := by
    obtain ⟨q, htracks, hlogged⟩ := exists_tracks hb
    exact ⟨q, hlogged.honoursWaiting, htracks, fun _ => htracks.returnsIn⟩
  settled_iff := by
    refine ⟨fun hall hq => ?_, fun hsettled c hr => settled_of_returns hb hr hsettled⟩
    have hdone := (hall _ (returnsIn_shutDown E hq)).2
    rwa [shutDown_of_closed hq] at hdone
  served := by
    intro c hE hq hr
    have hnone : b.queue.closed = true → b.queue.IsDone := by simp [hq]
    have hreach := hb.trans ((reaches_shutDown E b).trans hr.reaches)
    rw [← (settled_of_returns hb hr hnone).1]
    exact hasServed_of_isResting hE hreach (isResting_of_returns hb hq hr)
  again := fun hq => ⟨returnsIn_shutDown E hq, shutDown_of_closed hq⟩
  first := fun hq => exists_returnsIn hb hq

end Backend

/-- Who closes a queue and waits finds everything run that was accepted before, unless the queue was
closed already and had jobs left. So it is in every run of a queue, of tasks and of a backend. -/
theorem only_first_close_waits (name : Text) :
    (∀ (α : Type) (moves : List (QueueMove α)),
      ((QueueRun.opened name).run moves).HonoursWaiting) ∧
    (∀ actions : List TaskRun.Action, ∃ q : QueueRun Task, q.HonoursWaiting ∧
      (TaskRun.after name actions).queue = q.queue ∧
      (TaskRun.after name actions).notes.filter (·.remark == name) =
        q.ended.map (TaskRun.runNote name)) ∧
    ∀ (E : Surroundings) (headers : List (Text × Text)) (clearable : Bool),
      (∀ actions, E.Allows actions → Backend.Reaches E (.start headers clearable name)
        ((Backend.start headers clearable name).run actions)) ∧
      ∀ b, Backend.Reaches E (.start headers clearable name) b →
        (∀ rest, b.perform (.close rest) = b.shutDown.perform rest) ∧
          b.HonoursWaiting E headers := by
  have hall {α : Type} (moves : List (QueueMove α)) :
      ((QueueRun.opened name).run moves).HonoursWaiting :=
    ((QueueRun.isLogged_opened name).run moves).honoursWaiting
  refine ⟨fun _ => hall, fun actions => ?_, fun E headers clearable => ⟨?_, fun b hb => ?_⟩⟩
  · obtain ⟨q, ⟨moves, hmoves⟩, hqueue, hnotes⟩ := TaskRun.exists_runsIn name actions
    exact ⟨q, hmoves ▸ hall moves, hqueue, hnotes⟩
  · exact fun _ hallows => Backend.reaches_run hallows _
  · exact ⟨fun rest => Backend.perform_close rest b, Backend.honoursWaiting_of_reaches hb⟩

/-- A job is running when the queue is closed without waiting. Who closes it again and waits goes on
all the same, also while the job is held. -/
theorem second_close_overtakes_job :
    (let r := (QueueRun.opened "q".toText).run [.submit "a".toText, .take, .close false]
      let s := r.move (.close true)
      r.ReturnsIn s ∧ r.accepted = ["a".toText] ∧ s.ended = [] ∧ ¬ s.Outlives r) ∧
    let a := Task.mk "a".toText false [] false
    let r := TaskRun.after "q".toText [.hold, .submit a, .close false]
    let s := (r.step (.close true)).1
    r.queue.closeReturns true false s.queue = true ∧ s.queue.running = [a] ∧ s.notes = [] := by
  refine ⟨⟨⟨[], rfl, rfl⟩, rfl, rfl, fun h => ?_⟩, rfl, rfl, rfl⟩
  exact absurd h.isDone.1 (List.cons_ne_nil _ _)

/-- The worker has taken up the request of two callers when the backend is closed. -/
theorem first_close_waits_for_request :
    let b := (Backend.start [] false "requests".toText).run Backend.twoCallers
    let c := b.shutDown.run Backend.afterClosing
    Backend.Reaches .unrestricted (.start [] false "requests".toText) b ∧
      b.queue.closed = false ∧ b.queue.running.length = 1 ∧ b.ReturnsIn .unrestricted c ∧
      c.accepted = b.accepted ∧ c.queue.IsDone := by
  intro b c
  obtain ⟨hruns, hall⟩ := (only_first_close_waits "requests".toText).2.2 .unrestricted [] false
  have hb := hruns Backend.twoCallers (.unrestricted _)
  have hopen : b.queue.closed = false := by decide
  have hr : b.ReturnsIn .unrestricted c :=
    ⟨Backend.reaches_run (.unrestricted _) b.shutDown, by decide⟩
  exact ⟨hb, hopen, by decide, hr, (hall b hb).2.settled_iff.mpr (by simp [hopen]) c hr⟩

end SubscriptionClient
