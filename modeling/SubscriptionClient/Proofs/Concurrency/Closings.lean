import SubscriptionClient.Proofs.Concurrency.Turns

/-!
# Closing and waiting

Who closes a queue and waits goes on when the worker has gone. Then everything that was accepted has
come to its end, and the worker does go if its turn comes again and again. But a closed queue lets
everybody pass at once: there the waiting is worth nothing unless the worker was done already.
-/

namespace SubscriptionClient

theorem Worker.isAbsent_iff {α : Type} {w : Worker α} : w.isAbsent = true ↔ w = .absent := by
  cases w <;> simp [isAbsent]

theorem Worker.isGone_iff {α : Type} {w : Worker α} : w.isGone = true ↔ w = .gone := by
  cases w <;> simp [isGone]

namespace WorkQueue

variable {α : Type} {q q' : WorkQueue α} {a : α} {m : QueueMove α} {events : List (QueueEvent α)}

/-! ## Nothing left to run -/

/-- Whether no job is running or waiting. -/
def IsDone (q : WorkQueue α) : Prop := q.running = [] ∧ q.waitingJobs = []

theorem isDone_of_items_eq_nil (hitems : q.items = []) (hw : ∀ a, q.worker ≠ .busy a) :
    q.IsDone := by
  refine ⟨?_, by rw [waitingJobs, hitems, List.filterMap_nil]⟩
  unfold running
  split
  next a h => exact (hw a h).elim
  next => rfl

theorem IsSerial.isDone_of_absent (h : q.IsSerial) (hw : q.worker = .absent) : q.IsDone :=
  isDone_of_items_eq_nil (h.absent hw) (by simp [hw])

theorem IsSerial.isDone_of_gone (h : q.IsSerial) (hw : q.worker = .gone) : q.IsDone :=
  isDone_of_items_eq_nil (h.gone hw).1 (by simp [hw])

/-! ## Moves of a closed queue -/

/-- Only a submission lets a job in. -/
theorem accepted?_happens (q : WorkQueue α) (hm : ∀ a, m ≠ .submit a) :
    (q.happens m).filterMap QueueEvent.accepted? = [] := by
  cases m with
  | submit a => exact (hm a rfl).elim
  | close wait =>
    rw [happens]
    split <;> rfl
  | take =>
    simp only [happens]
    split <;> rfl
  | finish fault => simp [happens, List.filterMap_map, Function.comp_def, QueueEvent.accepted?]

namespace MoveStep

theorem closed_of_closed (h : MoveStep q q' events) (hq : q.closed = true) :
    q'.closed = true ∧ events.filterMap QueueEvent.accepted? = [] := by
  cases h with
  | accepted a h => simp [submit_of_closed hq] at h
  | closed | marked => exact ⟨closed_close q, rfl⟩
  | ended => exact ⟨(closed_finish q).trans hq, rfl⟩
  | refused | started | stopped | nothing => exact ⟨hq, rfl⟩

theorem isDone (h : MoveStep q q' events) (hq : q.closed = true) (hdone : q.IsDone) :
    q'.IsDone := by
  obtain ⟨hrunning, hwaiting⟩ := hdone
  have hjobs := h.waitingJobs_append
  rw [(h.closed_of_closed hq).2, List.append_nil, hwaiting, eq_comm,
    List.append_eq_nil_iff] at hjobs
  have hrun := h.running_append
  rw [hjobs.1, List.append_nil, hrunning, eq_comm, List.append_eq_nil_iff] at hrun
  exact ⟨hrun.2, hjobs.2⟩

/-- Without a job there never is a worker. -/
theorem absent (h : MoveStep q q' events) (hq : q.closed = true) (hw : q.worker = .absent) :
    q'.worker = .absent := by
  cases h with
  | accepted a h => simp [submit_of_closed hq] at h
  | closed | marked => exact (worker_close q).trans hw
  | started hidle | stopped hidle => cases hw.symm.trans hidle
  | ended hbusy => cases hw.symm.trans hbusy
  | refused | nothing => exact hw

end MoveStep

/-! ## The way to the stop marker -/

/-- Whether the worker is gone or will find the stop marker. -/
def IsStopping (q : WorkQueue α) : Prop := q.worker = .gone ∨ .stop ∈ q.items

/-- The items that are left, each counted twice, and the worker's job. -/
def ahead (q : WorkQueue α) : ℕ :=
  2 * q.items.length + match q.worker with
    | .busy _ => 1
    | _ => 0

theorem ahead_finish_lt (h : q.worker = .busy a) : q.finish.ahead < q.ahead := by
  simp [finish, ahead, h]

theorem ahead_take_lt (h : q.worker = .idle) (hi : q.items ≠ []) : q.take.ahead < q.ahead := by
  obtain ⟨item, rest, hitems⟩ := List.exists_cons_of_ne_nil hi
  cases item with
  | job a =>
    simp only [take, ahead, h, hitems, List.length_cons]
    omega
  | stop =>
    simp only [take, ahead, h, hitems, List.length_cons]
    omega

/-- The first to close a queue with a worker puts in the marker. -/
theorem isStopping_close (hq : q.closed = false) (hw : q.worker ≠ .absent) :
    q.close.IsStopping := by
  right
  simp [close, hq, Worker.isAbsent_iff, hw]

theorem MoveStep.isStopping (h : MoveStep q q' events) (hq : q.closed = true)
    (hstop : q.IsStopping) : q'.IsStopping := by
  cases h with
  | accepted a h => simp [submit_of_closed hq] at h
  | closed | marked => rwa [close_of_closed hq]
  | started hw hitems =>
    rcases hstop with hgone | hmem
    · cases hgone.symm.trans hw
    · rw [hitems] at hmem
      exact .inr ((List.mem_cons.mp hmem).resolve_left nofun)
  | stopped => exact .inl rfl
  | ended hw =>
    rcases hstop with hgone | hmem
    · cases hgone.symm.trans hw
    · right
      simpa only [finish, hw] using hmem
  | refused | nothing => exact hstop

/-- A move of a closed queue changes nothing or brings the worker nearer to its end. -/
theorem move_eq_or_ahead_lt (hq : q.closed = true) (m : QueueMove α) :
    q.move m = q ∨ (q.move m).ahead < q.ahead := by
  cases m with
  | submit a => exact .inl (by simp only [move, submit_of_closed hq])
  | close wait => exact .inl (close_of_closed hq)
  | take =>
    cases hw : q.worker with
    | absent | busy | gone => exact .inl (by simp only [move, take, hw])
    | idle =>
      cases hitems : q.items with
      | nil => exact .inl (by simp only [move, take, hw, hitems])
      | cons item rest => exact .inr (ahead_take_lt hw (by simp [hitems]))
  | finish fault =>
    cases hw : q.worker with
    | busy a => exact .inr (ahead_finish_lt hw)
    | absent | idle | gone => exact .inl (by simp only [move, finish, hw])

/-! ## When a waiting close may return -/

/-- The first who closes and waits goes on when the worker is gone, or has never been there. -/
theorem closeReturns_of_open (hq : q.closed = false) (now : WorkQueue α) :
    q.closeReturns true false now = true ↔ q.worker = .absent ∨ now.worker = .gone := by
  simp [closeReturns, closeWaits, hq, Worker.isAbsent_iff, Worker.isGone_iff]

theorem closeReturns_of_closed (hq : q.closed = true) (now : WorkQueue α) :
    q.closeReturns true false now = true := by
  simp [closeReturns, closeWaits, hq]

end WorkQueue

namespace QueueRun

variable {α : Type} {name : Text} {r s : QueueRun α}

/-! ## Where a waiting close returns -/

/-- Whether the queue of one run is closed by somebody who is not its worker and who waits, and may
go on in the other. -/
def ReturnsIn (r s : QueueRun α) : Prop :=
  ∃ moves, s = (r.move (.close true)).run moves ∧
    r.queue.closeReturns true false s.queue = true

/-- Whether everything that was accepted in one run has come to its end in the other, with nothing
left for the worker to run. -/
structure Outlives (s r : QueueRun α) : Prop where
  ended : r.accepted <+: s.ended
  isDone : s.queue.IsDone

theorem IsLogged.ended_eq (h : r.IsLogged name) (hdone : r.queue.IsDone) :
    r.ended = r.accepted := by
  obtain ⟨hrunning, hwaiting⟩ := hdone
  rw [h.accepted_eq, h.started_eq, hrunning, hwaiting, List.append_nil, List.append_nil]

theorem closed_run (hq : r.queue.closed = true) (moves : List (QueueMove α)) :
    (r.run moves).queue.closed = true ∧ (r.run moves).accepted = r.accepted := by
  induction moves generalizing r with
  | nil => exact ⟨hq, rfl⟩
  | cons m moves ih =>
    obtain ⟨hclosed, hnone⟩ := (r.queue.moveStep m).closed_of_closed hq
    obtain ⟨hend, haccepted⟩ := ih (r := r.move m) hclosed
    refine ⟨hend, haccepted.trans ?_⟩
    rw [accepted_move, hnone, List.append_nil]

/-- What every move of a closed queue keeps. -/
theorem run_of_closed {P : WorkQueue α → Prop}
    (hP : ∀ {q q' : WorkQueue α} {events}, WorkQueue.MoveStep q q' events → q.closed = true →
      P q → P q')
    (hq : r.queue.closed = true) (h : P r.queue) (moves : List (QueueMove α)) :
    P (r.run moves).queue := by
  induction moves generalizing r with
  | nil => exact h
  | cons m moves ih =>
    have hs := r.queue.moveStep m
    exact ih (r := r.move m) (hs.closed_of_closed hq).1 (hP hs hq h)

theorem accepted_move_close (r : QueueRun α) (wait : Bool) :
    (r.move (.close wait)).accepted = r.accepted := by
  rw [accepted_move, WorkQueue.accepted?_happens _ nofun, List.append_nil]

theorem queue_move_close (r : QueueRun α) (wait : Bool) :
    (r.move (.close wait)).queue = r.queue.close := rfl

/-- After a closing everything has come to its end just if nothing is running or waiting. -/
theorem IsLogged.outlives_iff (h : r.IsLogged name) (moves : List (QueueMove α)) :
    ((r.move (.close true)).run moves).Outlives r ↔
      ((r.move (.close true)).run moves).queue.IsDone := by
  refine ⟨Outlives.isDone, fun hdone => ⟨?_, hdone⟩⟩
  have hclosed : (r.move (.close true)).queue.closed = true := WorkQueue.closed_close r.queue
  rw [((h.move (.close true)).run moves).ended_eq hdone, (closed_run hclosed moves).2,
    accepted_move_close]

theorem worker_of_returns (hr : r.ReturnsIn s) (hq : r.queue.closed = false) :
    s.queue.worker = .absent ∨ s.queue.worker = .gone := by
  obtain ⟨moves, rfl, hreturns⟩ := hr
  refine ((WorkQueue.closeReturns_of_open hq _).mp hreturns).imp_left fun habsent => ?_
  exact run_of_closed (fun hs => hs.absent) (WorkQueue.closed_close r.queue)
    ((WorkQueue.worker_close r.queue).trans habsent) moves

theorem IsLogged.isDone_of_returns (h : r.IsLogged name) (hr : r.ReturnsIn s)
    (hsettled : r.queue.closed = true → r.queue.IsDone) : s.queue.IsDone := by
  cases hq : r.queue.closed with
  | true =>
    obtain ⟨moves, rfl, -⟩ := hr
    refine run_of_closed (fun hs => hs.isDone) (WorkQueue.closed_close r.queue) ?_ moves
    rw [queue_move_close, WorkQueue.close_of_closed hq]
    exact hsettled hq
  | false =>
    have hworker := worker_of_returns hr hq
    obtain ⟨moves, rfl, -⟩ := hr
    have hserial := ((h.move (.close true)).run moves).serial
    exact hworker.elim hserial.isDone_of_absent hserial.isDone_of_gone

theorem IsLogged.outlives_iff_settled (h : r.IsLogged name) :
    (∀ s, r.ReturnsIn s → s.Outlives r) ↔ (r.queue.closed = true → r.queue.IsDone) := by
  constructor
  · intro hall hq
    -- the second closer may go on at once, and finds the queue as it was
    have hdone := (hall _ ⟨[], rfl, WorkQueue.closeReturns_of_closed hq _⟩).isDone
    rwa [show ((r.move (.close true)).run []).queue = r.queue from
      WorkQueue.close_of_closed hq] at hdone
  · intro hsettled s hr
    have hdone := h.isDone_of_returns hr hsettled
    obtain ⟨moves, rfl, -⟩ := hr
    exact (h.outlives_iff moves).mpr hdone

/-! ## The worker gets there -/

def after (schedule : ℕ → QueueMove α) (i : ℕ) (r : QueueRun α) : QueueRun α :=
  r.run ((List.range i).map schedule)

theorem after_succ (schedule : ℕ → QueueMove α) (i : ℕ) (r : QueueRun α) :
    r.after schedule (i + 1) = (r.after schedule i).move (schedule i) := by
  simp [after, run, List.range_succ]

/-- The worker gets a turn whenever it is idle, and no job runs for ever. -/
structure IsFair (schedule : ℕ → QueueMove α) : Prop where
  takes (i : ℕ) : ∃ j, i ≤ j ∧ schedule j = .take
  finishes (i : ℕ) : ∃ j, i ≤ j ∧ ∃ fault, schedule j = .finish fault

theorem queue_eq_or_nearer {schedule : ℕ → QueueMove α} (hq : r.queue.closed = true) (i d : ℕ) :
    (r.after schedule (i + d)).queue = (r.after schedule i).queue ∨
      (r.after schedule (i + d)).queue.ahead < (r.after schedule i).queue.ahead := by
  induction d with
  | zero => exact .inl rfl
  | succ d ih =>
    have hclosed : (r.after schedule (i + d)).queue.closed = true := (closed_run hq _).1
    have hmove := WorkQueue.move_eq_or_ahead_lt hclosed (schedule (i + d))
    rw [← Nat.add_assoc, after_succ]
    rcases hmove with hsame | hlt
    · rwa [show ((r.after schedule (i + d)).move (schedule (i + d))).queue = _ from hsame]
    · refine .inr ?_
      rcases ih with hsame | hlt'
      · rwa [← hsame]
      · exact hlt.trans hlt'

theorem IsLogged.exists_nearer (h : r.IsLogged name) {schedule : ℕ → QueueMove α}
    (hq : r.queue.closed = true) (hstop : r.queue.IsStopping) (hfair : IsFair schedule) (i : ℕ) :
    (r.after schedule i).queue.worker = .gone ∨
      ∃ j, i ≤ j ∧ (r.after schedule j).queue.ahead < (r.after schedule i).queue.ahead := by
  -- what the worker has to do next it does at its next turn, if not before
  have hturn {j : ℕ} (hj : i ≤ j) (hmove : ((r.after schedule i).queue.move (schedule j)).ahead <
      (r.after schedule i).queue.ahead) :
      ∃ j, i ≤ j ∧ (r.after schedule j).queue.ahead < (r.after schedule i).queue.ahead := by
    obtain ⟨d, rfl⟩ := Nat.exists_eq_add_of_le hj
    rcases queue_eq_or_nearer hq i d with hsame | hlt
    · refine ⟨i + d + 1, by omega, ?_⟩
      rw [after_succ]
      show ((r.after schedule (i + d)).queue.move _).ahead < _
      rwa [hsame]
    · exact ⟨i + d, hj, hlt⟩
  have hmem (hthere : (r.after schedule i).queue.worker ≠ .gone) :
      .stop ∈ (r.after schedule i).queue.items :=
    (run_of_closed (fun hs => hs.isStopping) hq hstop _).resolve_left hthere
  cases hw : (r.after schedule i).queue.worker with
  | gone => exact .inl rfl
  | busy a =>
    obtain ⟨j, hj, fault, hfinish⟩ := hfair.finishes i
    exact .inr (hturn hj (hfinish ▸ WorkQueue.ahead_finish_lt hw))
  | idle =>
    obtain ⟨j, hj, htake⟩ := hfair.takes i
    have hne := List.ne_nil_of_mem (hmem (by simp [hw]))
    exact .inr (hturn hj (htake ▸ WorkQueue.ahead_take_lt hw hne))
  | absent =>
    have hnone : (r.after schedule i).queue.items = [] := (h.run _).serial.absent hw
    simpa [hnone] using hmem (by simp [hw])

theorem IsLogged.exists_gone (h : r.IsLogged name) {schedule : ℕ → QueueMove α}
    (hq : r.queue.closed = true) (hstop : r.queue.IsStopping) (hfair : IsFair schedule) (i : ℕ) :
    ∃ j, (r.after schedule j).queue.worker = .gone := by
  -- on what is ahead, which no move makes more
  induction hn : (r.after schedule i).queue.ahead using Nat.strongRecOn generalizing i with
  | ind n ih =>
    rcases h.exists_nearer hq hstop hfair i with hgone | ⟨j, -, hlt⟩
    · exact ⟨i, hgone⟩
    · exact ih _ (hn ▸ hlt) j rfl

/-! ## What a run makes of waiting -/

/-- What holds of a run when somebody who is not the worker closes the queue and waits. -/
structure HonoursWaiting (r : QueueRun α) : Prop where
  /-- All that was accepted has ended when such a close returns, unless the queue was closed before
  with jobs left. -/
  outlives_iff : (∀ s, r.ReturnsIn s → s.Outlives r) ↔ (.closing ∈ r.log → r.queue.IsDone)
  /-- A close that is not the first returns at once. -/
  again : .closing ∈ r.log →
    r.ReturnsIn (r.move (.close true)) ∧ (r.move (.close true)).queue = r.queue
  /-- The first one returns at last. -/
  first {schedule : ℕ → QueueMove α} : .closing ∉ r.log → IsFair schedule →
    ∃ i, r.ReturnsIn ((r.move (.close true)).after schedule i)

theorem IsLogged.honoursWaiting (h : r.IsLogged name) : r.HonoursWaiting where
  outlives_iff := by
    rw [← h.admits.closed_iff]
    exact h.outlives_iff_settled
  again := by
    intro hmem
    have hq := h.admits.closed_iff.mpr hmem
    exact ⟨⟨[], rfl, WorkQueue.closeReturns_of_closed hq _⟩, WorkQueue.close_of_closed hq⟩
  first := by
    intro schedule hmem hfair
    have hq : r.queue.closed = false := by
      rw [← Bool.not_eq_true]
      exact fun hq => hmem (h.admits.closed_iff.mp hq)
    by_cases hw : r.queue.worker = .absent
    · exact ⟨0, [], rfl, (WorkQueue.closeReturns_of_open hq _).mpr (.inl hw)⟩
    · obtain ⟨j, hgone⟩ := (h.move (.close true)).exists_gone (WorkQueue.closed_close r.queue)
        (WorkQueue.isStopping_close hq hw) hfair 0
      exact ⟨j, _, rfl, (WorkQueue.closeReturns_of_open hq _).mpr (.inr hgone)⟩

end QueueRun

end SubscriptionClient
