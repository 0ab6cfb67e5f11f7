import Mathlib.Data.Prod.Lex
import SubscriptionClient.Proofs.Backend.Order
import SubscriptionClient.Proofs.Backend.Waiting
import SubscriptionClient.Proofs.Concurrency.Closings

/-!
# Progress after closing

Once the queue is closed nothing that callers do gives the worker more to do, and each of its own
steps brings it nearer to rest. So it comes to rest under every schedule in which its turn comes
again and again, and stays there.
-/

namespace SubscriptionClient

def Stage.ahead : Stage → ℕ
  | fresh => 2
  | awaiting _ => 1
  | delivering _ _ => 0

namespace Backend

variable {b c d : Backend} {n : Nat}

/-! ## What callers leave alone -/

/-- Whether the worker has as much to do in the one state as in the other. -/
structure SameWork (b c : Backend) : Prop where
  queue : c.queue = b.queue
  stage : c.stage = b.stage

theorem SameWork.refl (b : Backend) : SameWork b b := ⟨rfl, rfl⟩

theorem SameWork.trans (h : SameWork b c) (h' : SameWork c d) : SameWork b d :=
  ⟨h'.queue.trans h.queue, h'.stage.trans h.stage⟩

theorem SameWork.closed (h : SameWork b c) (hq : b.queue.closed = true) :
    c.queue.closed = true := by
  rwa [h.queue]

theorem sameWork_noteDone (n : Nat) (b : Backend) : SameWork b (b.noteDone n) := by
  obtain ⟨events, he⟩ := exists_noteDone_eq n b
  rw [he]
  exact ⟨rfl, rfl⟩

theorem sameWork_followedBy? {next : Script} (h : b.followedBy? n next = some c) :
    SameWork b c := by
  obtain ⟨t, future, -, -, rfl⟩ := exists_of_followedBy? h
  exact ⟨rfl, rfl⟩

theorem sameWork_dispatch (hq : b.queue.closed = true) (label : Text) (job : Job) :
    ∃ c n, b.dispatch label job = (c, .ok n) ∧ SameWork b c := by
  cases h : (b.registries job.operation.family).batch? job.key with
  | some batch => exact ⟨_, _, dispatch_of_joined label h, ⟨rfl, rfl⟩⟩
  | none => exact ⟨_, _, dispatch_of_refused label h hq, ⟨rfl, rfl⟩⟩

theorem sameWork_issue (hq : b.queue.closed = true) (label : Text) (call : Call) :
    SameWork b (b.issue label call).1 := by
  cases h : call.admission with
  | raised fault =>
    simp only [issue, h]
    exact ⟨rfl, rfl⟩
  | settled outcome =>
    simp only [issue, h]
    exact ⟨rfl, rfl⟩
  | dispatch job =>
    obtain ⟨c, n, hd, hsame⟩ := sameWork_dispatch hq label job
    simpa only [issue, h, hd] using hsame

theorem isKept_sameWork (hq : b.queue.closed = true) : IsKept (fun _ => True) (SameWork b) where
  issue := fun label call _ _ h => h.trans (sameWork_issue (h.closed hq) label call)
  follow := fun _ hc h => h.trans (sameWork_followedBy? hc)
  note := fun n b h => h.trans (sameWork_noteDone n b)
  close := by
    intro c h
    rwa [WorkQueue.close_of_closed (h.closed hq)]

theorem sameWork_cancel (hq : b.queue.closed = true) (n : Nat) : SameWork b (b.cancel n).1 := by
  cases ht : b.tickets[n]? with
  | none =>
    simp only [cancel, ht]
    exact .refl b
  | some t =>
    simp only [cancel, ht]
    exact (isKept_sameWork hq).conclude n (fun s _ => s.all_true) ⟨rfl, rfl⟩

theorem sameWork_deliver (hq : b.queue.closed = true) (outcome : Attempt Outcome) (n : Nat) :
    SameWork b (b.deliver outcome n) := by
  unfold deliver
  split
  · split
    · exact (isKept_sameWork hq).conclude n (fun s _ => s.all_true) ⟨rfl, rfl⟩
    · exact .refl b
  · exact .refl b

/-! ## What lies ahead of the worker -/

/-- Jobs count first, then the stages of the worker's job, then its deliveries. -/
def ahead (b : Backend) : ℕ ×ₗ ℕ ×ₗ ℕ :=
  toLex (b.queue.ahead, toLex (b.stage.ahead, b.undelivered.length))

theorem SameWork.ahead_eq (h : SameWork b c) : c.ahead = b.ahead := by
  simp only [ahead, undelivered, h.queue, h.stage]

theorem ahead_lt_of_queue (h : c.queue.ahead < b.queue.ahead) : c.ahead < b.ahead :=
  Prod.Lex.toLex_lt_toLex.mpr (.inl h)

theorem ahead_lt_of_stage (hq : c.queue = b.queue) (h : c.stage.ahead < b.stage.ahead) :
    c.ahead < b.ahead :=
  Prod.Lex.toLex_lt_toLex.mpr
    (.inr ⟨congrArg WorkQueue.ahead hq, Prod.Lex.toLex_lt_toLex.mpr (.inl h)⟩)

theorem ahead_lt_of_undelivered (hq : c.queue = b.queue) (hs : c.stage.ahead = b.stage.ahead)
    (h : c.undelivered.length < b.undelivered.length) : c.ahead < b.ahead :=
  Prod.Lex.toLex_lt_toLex.mpr
    (.inr ⟨congrArg WorkQueue.ahead hq, Prod.Lex.toLex_lt_toLex.mpr (.inr ⟨hs, h⟩)⟩)

variable {job : Job}

theorem ahead_answer_lt (hw : b.queue.worker = .busy job)
    (hs : ∀ outcome ns, b.stage ≠ .delivering outcome ns) (r : Response) :
    (b.answer job r).ahead < b.ahead := by
  rcases answer_queue_and_stage job r b with ⟨hq, outcome, ns, hstage⟩ | ⟨hq, -⟩
  · apply ahead_lt_of_stage hq
    rw [hstage]
    cases h : b.stage with
    | delivering outcome ns => exact (hs outcome ns h).elim
    | fresh | awaiting => simp [Stage.ahead]
  · apply ahead_lt_of_queue
    rw [hq]
    exact WorkQueue.ahead_finish_lt hw

theorem idle_of_not_resting (hr : b.isResting = false)
    (hw : ∀ job, b.queue.worker ≠ .busy job) : b.queue.worker = .idle ∧ b.queue.items ≠ [] := by
  cases h : b.queue.worker with
  | busy job => exact (hw job h).elim
  | idle =>
    refine ⟨rfl, ?_⟩
    rintro hitems
    simp [isResting, h, hitems] at hr
  | absent | gone => simp [isResting, h] at hr

/-- Each step of a worker that is not at rest brings it nearer to rest. -/
theorem ahead_work_lt (hq : b.queue.closed = true) (hr : b.isResting = false)
    (transport : Sent → Reply) : (b.work transport).ahead < b.ahead := by
  have hstep := workStep transport b
  generalize b.work transport = c at hstep ⊢
  cases hstep with
  | taken hw =>
    obtain ⟨hidle, hitems⟩ := idle_of_not_resting hr hw
    exact ahead_lt_of_queue (WorkQueue.ahead_take_lt hidle hitems)
  | sent hw hs =>
    apply ahead_lt_of_stage
    · rfl
    · simp [hs, Stage.ahead]
  | unsent hw hs | replied hw hs => exact ahead_answer_lt hw (by simp [hs]) _
  | abandoned hw | finished hw => exact ahead_lt_of_queue (WorkQueue.ahead_finish_lt hw)
  | @delivered job outcome n ns hw hs =>
    have hsame := sameWork_deliver (b := { b with stage := .delivering outcome ns }) hq outcome n
    rw [hsame.ahead_eq]
    apply ahead_lt_of_undelivered
    · rfl
    · simp [hs, Stage.ahead]
    · simp [undelivered, hs]

theorem work_of_isResting (hr : b.isResting = true) (transport : Sent → Reply) :
    b.work transport = b := by
  cases hw : b.queue.worker with
  | busy job => simp [isResting, hw] at hr
  | idle =>
    have hitems : b.queue.items = [] := by simpa [isResting, hw] using hr
    simp [work, hw, WorkQueue.take, hitems]
  | absent | gone => simp [work, hw, WorkQueue.take]

/-! ## Schedules -/

def Action.isWork : Action → Bool
  | .work _ => true
  | _ => false

theorem sameWork_act {a : Action} (hq : b.queue.closed = true) (ha : a.isWork = false) :
    SameWork b (b.act a) := by
  cases a with
  | run s => exact (isKept_sameWork hq).perform s.all_true (.refl b)
  | cancel n => exact sameWork_cancel hq n
  | clearCaches =>
    simp only [act, clearCaches]
    split
    · exact ⟨rfl, rfl⟩
    · exact .refl b
  | work => simp [Action.isWork] at ha

def after (schedule : ℕ → Action) (i : ℕ) (b : Backend) : Backend :=
  b.run ((List.range i).map schedule)

theorem after_succ (schedule : ℕ → Action) (i : ℕ) (b : Backend) :
    b.after schedule (i + 1) = (b.after schedule i).act (schedule i) := by
  simp [after, run, List.range_succ]

theorem closed_after (schedule : ℕ → Action) (hq : b.queue.closed = true) (i : ℕ) :
    (b.after schedule i).queue.closed = true :=
  Reaches.closed (reaches_run (.unrestricted _) b) hq

theorem isResting_act {a : Action} (hq : b.queue.closed = true) (hr : b.isResting = true) :
    (b.act a).isResting = true := by
  cases ha : a.isWork with
  | true =>
    cases a with
    | work transport => rwa [act, work_of_isResting hr]
    | run | cancel | clearCaches => simp [Action.isWork] at ha
  | false => rwa [isResting, (sameWork_act hq ha).queue]

theorem isResting_or_nearer {schedule : ℕ → Action} (hq : b.queue.closed = true) {i : ℕ}
    (hi : (schedule i).isWork = true) :
    (b.after schedule i).isResting = true ∨
      (b.after schedule (i + 1)).ahead < (b.after schedule i).ahead := by
  cases hr : (b.after schedule i).isResting with
  | true => exact .inl rfl
  | false =>
    refine .inr ?_
    rw [after_succ]
    cases h : schedule i with
    | work transport => exact ahead_work_lt (closed_after schedule hq i) hr transport
    | run | cancel | clearCaches => simp [h, Action.isWork] at hi

theorem exists_isResting_or_nearer {schedule : ℕ → Action} (hq : b.queue.closed = true) {i d : ℕ}
    (hd : (schedule (i + d)).isWork = true) :
    ∃ j, i ≤ j ∧ ((b.after schedule j).isResting = true ∨
      (b.after schedule j).ahead < (b.after schedule i).ahead) := by
  induction d generalizing i with
  | zero =>
    rcases isResting_or_nearer hq hd with hr | hlt
    · exact ⟨i, le_refl i, .inl hr⟩
    · exact ⟨i + 1, Nat.le_succ i, .inr hlt⟩
  | succ d ih =>
    cases hi : (schedule i).isWork with
    | true =>
      rcases isResting_or_nearer hq hi with hr | hlt
      · exact ⟨i, le_refl i, .inl hr⟩
      · exact ⟨i + 1, Nat.le_succ i, .inr hlt⟩
    | false =>
      -- callers leave the worker where it is, so the next action counts
      have hsame := sameWork_act (closed_after schedule hq i) hi
      rw [← after_succ] at hsame
      obtain ⟨j, hj, h⟩ := ih (i := i + 1) (by rwa [Nat.add_right_comm])
      rw [hsame.ahead_eq] at h
      exact ⟨j, (Nat.le_succ i).trans hj, h⟩

theorem exists_isResting {schedule : ℕ → Action} (hq : b.queue.closed = true)
    (hfair : ∀ i, ∃ j, i ≤ j ∧ (schedule j).isWork = true) (i : ℕ) :
    ∃ j, i ≤ j ∧ (b.after schedule j).isResting = true := by
  -- on what is ahead: fairness brings the worker's next turn, and that makes it less
  induction h : (b.after schedule i).ahead using WellFoundedLT.induction generalizing i with
  | ind x ih =>
    obtain ⟨k, hk, hwork⟩ := hfair i
    obtain ⟨d, rfl⟩ := Nat.exists_eq_add_of_le hk
    obtain ⟨j, hj, hr | hlt⟩ := exists_isResting_or_nearer hq hwork
    · exact ⟨j, hj, hr⟩
    · obtain ⟨m, hm, hr⟩ := ih _ (h ▸ hlt) j rfl
      exact ⟨m, hj.trans hm, hr⟩

/-- Under a fair schedule the worker comes to rest after closing and stays at rest. -/
theorem eventually_isResting {schedule : ℕ → Action} (hq : b.queue.closed = true)
    (hfair : ∀ i, ∃ j, i ≤ j ∧ (schedule j).isWork = true) :
    ∃ i, ∀ j, i ≤ j → (b.after schedule j).isResting = true := by
  obtain ⟨i, -, hr⟩ := exists_isResting hq hfair 0
  refine ⟨i, fun j hj => ?_⟩
  induction j, hj using Nat.le_induction with
  | base => exact hr
  | succ j _ ih =>
    rw [after_succ]
    exact isResting_act (closed_after schedule hq j) ih

end Backend

end SubscriptionClient
