import SubscriptionClient.Proofs.Backend.Transparency
import SubscriptionClient.Proofs.Backend.Views

/-!
# The worker in a view

The steps of the worker leave a view as it is, except for the answer to a job that is shown. So
wherever the worker stands, the view in which it will come to rest is the one in which all jobs that
are shown have been answered.
-/

namespace SubscriptionClient

namespace View

variable {headers : List (Text × Text)} {transport : Sent → Reply} {v : View}

theorem outstanding_answer (headers : List (Text × Text)) (transport : Sent → Reply) (v : View)
    (job : Job) : (v.answer headers transport job).outstanding = v.outstanding.tail := by
  unfold answer
  split <;> rfl

theorem settle_of_cons {job : Job} {jobs : List Job} (h : v.outstanding = job :: jobs) :
    v.settle headers transport =
      (v.answer headers transport job).settle headers transport := by
  have htail := outstanding_answer headers transport v job
  rw [settle, settle, htail, h, List.foldl_cons, List.tail_cons]

theorem settle_of_nil (h : v.outstanding = []) : v.settle headers transport = v := by
  rw [settle, h, List.foldl_nil]

end View

namespace Backend

variable {E : Surroundings} {s : Slot} {b c : Backend} {job : Job} {n : Nat} {sent : Sent}
  {outcome : Attempt Outcome} {ns : List Nat} {transport : Sent → Reply}

theorem view_take (ho : b.IsOrderly) (hw : ∀ job, b.queue.worker ≠ .busy job) (s : Slot) :
    ({ b with queue := b.queue.take } : Backend).view s = b.view s := by
  refine View.ext (WorkQueue.name_take b.queue) (WorkQueue.closed_take b.queue) rfl rfl rfl rfl ?_
    rfl
  simp only [view, outstanding_take ho hw]

theorem view_sent (hw : b.queue.worker = .busy job) (hs : b.stage = .fresh) (sent : Sent)
    (s : Slot) :
    ({ b.note (.sent sent) with stage := .awaiting sent } : Backend).view s = b.view s := by
  have houtstanding : ({ b.note (.sent sent) with stage := .awaiting sent } : Backend).outstanding =
      b.outstanding := outstanding_eq_of_awaited rfl hw (by simp [hs]) (by simp)
  refine View.ext rfl rfl rfl rfl ?_ rfl ?_ rfl
  · simp only [view, hs]
    rfl
  · simp only [view, houtstanding]

theorem view_finish (hw : b.queue.worker = .busy job) (hs : b.stage = .delivering outcome [])
    (s : Slot) : b.finish.view s = b.view s := by
  refine View.ext (WorkQueue.name_finish b.queue) (WorkQueue.closed_finish b.queue) rfl rfl ?_ rfl
    ?_ rfl
  · simp only [view, hs]
    rfl
  · simp only [view, outstanding_finish hw hs]

theorem view_deliver (hq : b.IsQuiet) (hw : b.queue.worker = .busy job)
    (hs : b.stage = .delivering outcome (n :: ns)) (s : Slot) :
    (deliver outcome n { b with stage := .delivering outcome ns }).view s = b.view s := by
  obtain ⟨events, he⟩ :=
    exists_deliver_eq (b := { b with stage := .delivering outcome ns }) hq outcome n
  have houtstanding : ({ b with
      stage := .delivering outcome ns
      tickets := b.tickets.modify n (Ticket.given outcome)
      events } : Backend).outstanding = b.outstanding :=
    outstanding_eq_of_delivering rfl hw hs rfl
  rw [he]
  refine View.ext rfl rfl ?_ rfl ?_ rfl ?_ rfl
  · simp [view]
  · simp only [view, hs]
    exact congrArg (deliverAll outcome ns) (shown_modify _ rfl rfl)
  · simp only [view, houtstanding]

/-! ## Answers -/

theorem view_abandon (hw : b.queue.worker = .busy job) (hs : b.stage = .awaiting sent)
    (fault : Fault) (s : Slot) :
    (b.abandon fault).view s =
      { b.view s with outstanding := b.queue.waitingJobs.filter (·.slot ≠ s) } := by
  refine View.ext (WorkQueue.name_finish b.queue) (WorkQueue.closed_finish b.queue) rfl rfl ?_ rfl
    ?_ rfl
  · simp only [view, hs]
    rfl
  · simp only [view, outstanding_abandon hw]

variable {batch : List Nat} {registry : Registry Nat}

theorem view_drained (hf : IsFiled b.registries b.journal) (hw : b.queue.worker = .busy job)
    (hs : b.stage = .awaiting sent) (r : Response)
    (hd : (b.registries job.operation.family).drain? job.key = some (batch, registry)) :
    (b.answer job r).view s = { b.view s with
      tickets := deliverAll (job.operation.handle r) batch (b.view s).tickets
      batch? := fun s' => if s' = job.slot then none else (b.view s).batch? s'
      outstanding := b.queue.waitingJobs.filter (·.slot ≠ s) } := by
  have haccepted := accepted_answer job r b
  rw [answer_of_drain? hd] at haccepted ⊢
  refine View.ext rfl rfl rfl ?_ ?_ ?_ ?_ ?_
  · simp [view, enrolledIn, List.filterMap_append, List.filterMap_cons, Entry.registeredIn?]
  · have hshown : Backend.shown s { b with
        registries := drainedOf job registry b.registries
        journal := b.journal ++ [.answered job batch r]
        stage := .delivering (job.operation.handle r) batch } = b.shown s := by
      funext m
      simp [shown, enrolledIn, List.filterMap_append, List.filterMap_cons, Entry.registeredIn?]
    simp only [view, hs, hshown]
    rfl
  · funext s'
    simp only [view, Backend.batch?]
    by_cases hs' : s' = job.slot
    · rw [hs', batch?_drainedOf_self hd (hf.nodup_keys _)]
      simp
    · rw [if_neg hs', batch?_drainedOf_of_ne hd (Ne.symm hs')]
  · have houtstanding : Backend.outstanding { b with
        registries := drainedOf job registry b.registries
        journal := b.journal ++ [.answered job batch r]
        stage := .delivering (job.operation.handle r) batch } = b.queue.waitingJobs :=
      outstanding_of_delivering hw rfl
    simp only [view, houtstanding]
  · simp only [view, haccepted]

/-- An answer for the family and key that is left out changes nothing. -/
theorem view_work_of_own (hf : IsFiled b.registries b.journal) (hw : b.queue.worker = .busy job)
    (hs : b.stage = .awaiting sent) (hjob : job.slot = s) :
    (b.work transport).view s = b.view s := by
  have houtstanding : b.outstanding = job :: b.queue.waitingJobs :=
    outstanding_eq_cons hw (by simp [hs])
  have hsame : (b.view s).outstanding = b.queue.waitingJobs.filter (·.slot ≠ s) := by
    simp [view, houtstanding, hjob]
  have habandoned (fault : Fault) : (b.abandon fault).view s = b.view s := by
    rw [view_abandon hw hs, ← hsame]
  cases hr : (transport sent).response? with
  | error fault =>
    simp only [work, hw, hs, hr]
    exact habandoned fault
  | ok r =>
    simp only [work, hw, hs, hr]
    cases hd : (b.registries job.operation.family).drain? job.key with
    | none =>
      simp only [answer, hd]
      exact habandoned _
    | some drained =>
      -- whoever is in the batch is left out as well
      have hbatch := (Registry.drain?_eq_some_iff.mp hd).1
      have hnone : ∀ n ∈ drained.1, (b.view s).tickets n = none := by
        intro n hn
        have hmem : n ∈ b.enrolledIn s := hjob ▸ hf.registered (s := job.slot) hbatch n hn
        simp [view, hs, Stage.deliverRest, shown, hmem]
      rw [view_drained hf hw hs r hd, deliverAll_of_none _ hnone, ← hsame]
      refine View.ext rfl rfl rfl rfl rfl ?_ rfl rfl
      funext s'
      by_cases hs' : s' = s <;> simp [view, hjob, hs']

/-- An answer for a job that is shown. -/
theorem view_work_of_shown (hf : IsFiled b.registries b.journal) (ha : b.AwaitsOwn)
    (hw : b.queue.worker = .busy job) (hs : b.stage = .awaiting sent) (hjob : job.slot ≠ s) :
    (b.work transport).view s = (b.view s).answer b.headers transport job := by
  have houtstanding : b.outstanding = job :: b.queue.waitingJobs :=
    outstanding_eq_cons hw (by simp [hs])
  have htail : (b.view s).outstanding.tail = b.queue.waitingJobs.filter (·.slot ≠ s) := by
    simp [view, houtstanding, hjob]
  have hbatch : (b.view s).batch? job.slot =
      (b.registries job.operation.family).batch? job.key := if_neg hjob
  rw [View.answer, ha job sent hw hs, hbatch, htail, Option.map_some]
  cases hr : (transport sent).response? with
  | error fault =>
    simp only [work, hw, hs, hr]
    rw [view_abandon hw hs]
  | ok r =>
    simp only [work, hw, hs, hr]
    cases hd : (b.registries job.operation.family).drain? job.key with
    | none =>
      have hnone : (b.registries job.operation.family).batch? job.key = none := by
        simpa [Registry.drain?] using hd
      simp only [answer, hd, hnone]
      rw [view_abandon hw hs]
    | some drained =>
      rw [(Registry.drain?_eq_some_iff.mp hd).1]
      exact view_drained hf hw hs r hd

/-! ## Steps of the worker -/

/-- Whether the bodies of all outstanding jobs can be built. -/
def HasBodies (b : Backend) : Prop := ∀ job ∈ b.outstanding, ∃ s, job.request? b.headers = some s

/-- The request of a job that the worker begins with is sent. -/
theorem HasBodies.not_unsent (h : b.HasBodies) (hw : b.queue.worker = .busy job)
    (hs : b.stage = .fresh) (r : Response) :
    job.operation.exchange.prepare b.headers ≠ .error r := by
  intro hp
  obtain ⟨s, hs'⟩ := h job (by simp [outstanding_eq_cons hw (by simp [hs])])
  rw [Job.request?, hp] at hs'
  cases hs'

theorem view_work_of_not_awaiting (ho : b.IsOrderly) (hq : b.IsQuiet) (hb : b.HasBodies)
    (h : b.isAwaiting = false) (transport : Sent → Reply) (s : Slot) :
    (b.work transport).view s = b.view s := by
  have hstep := workStep transport b
  generalize b.work transport = c at hstep ⊢
  cases hstep with
  | taken hw => exact view_take ho hw s
  | sent hw hs => exact view_sent hw hs _ s
  | unsent hw hs hp => exact (hb.not_unsent hw hs _ hp).elim
  | replied hw hs | abandoned hw hs => simp [isAwaiting, hw, hs] at h
  | delivered hw hs => exact view_deliver hq hw hs s
  | finished hw hs => exact view_finish hw hs s

/-- The answers that are still to come do not change with the steps of the worker. -/
theorem settle_view_work (ho : b.IsOrderly) (hf : IsFiled b.registries b.journal)
    (ha : b.AwaitsOwn) (hq : b.IsQuiet) (hb : b.HasBodies) (transport : Sent → Reply) (s : Slot) :
    ((b.work transport).view s).settle b.headers transport =
      (b.view s).settle b.headers transport := by
  cases h : b.isAwaiting with
  | false => rw [view_work_of_not_awaiting ho hq hb h]
  | true =>
    cases hw : b.queue.worker with
    | busy job =>
      cases hs : b.stage with
      | awaiting sent =>
        by_cases hjob : job.slot = s
        · rw [view_work_of_own hf hw hs hjob]
        · have houtstanding : (b.view s).outstanding =
              job :: b.queue.waitingJobs.filter (·.slot ≠ s) := by
            simp [view, outstanding_eq_cons hw (by simp [hs]), hjob]
          rw [view_work_of_shown hf ha hw hs hjob, View.settle_of_cons houtstanding]
      | fresh | delivering => simp [isAwaiting, hw, hs] at h
    | absent | idle | gone => simp [isAwaiting, hw] at h

theorem isQuiet_work (hq : b.IsQuiet) (transport : Sent → Reply) : (b.work transport).IsQuiet := by
  have hstep := workStep transport b
  generalize b.work transport = c at hstep ⊢
  cases hstep with
  | unsent | replied => exact hq.of_tickets (tickets_answer _ _ b)
  | @delivered job outcome n ns hw hs =>
    obtain ⟨events, he⟩ :=
      exists_deliver_eq (b := { b with stage := .delivering outcome ns }) hq outcome n
    rw [he]
    exact hq.of_modify rfl fun t => isSilent_given outcome
  | taken | sent | abandoned | finished => exact hq.of_tickets rfl

/-! ## How far the worker has to go -/

/-- The steps that the worker has left with its job, apart from deliveries. -/
def jobSteps (b : Backend) : Nat :=
  match b.queue.worker, b.stage with
  | .busy _, .fresh => 3
  | .busy _, .awaiting _ => 2
  | .busy _, .delivering _ _ => 1
  | _, _ => 0

def left (b : Backend) : Nat := 4 * b.queue.items.length + b.jobSteps + b.waiting.length

theorem left_le_remaining (h : b.waiting.length ≤ b.tickets.length) : b.left ≤ b.remaining := by
  have hjob : b.jobSteps ≤ 3 := by
    unfold jobSteps
    split <;> omega
  unfold left remaining
  omega

theorem jobSteps_of_not_busy (h : ∀ job, b.queue.worker ≠ .busy job) : b.jobSteps = 0 := by
  cases hw : b.queue.worker with
  | busy job => exact (h job hw).elim
  | absent | idle | gone => simp [jobSteps, hw]

theorem left_take_lt (ho : b.IsOrderly) (hw : b.queue.worker = .idle) (hi : b.queue.items ≠ []) :
    ({ b with queue := b.queue.take } : Backend).left < b.left := by
  have hfresh := ho.fresh (by simp [hw])
  have hsteps : b.jobSteps = 0 := jobSteps_of_not_busy (by simp [hw])
  have hwaiting : ({ b with queue := b.queue.take } : Backend).waiting = b.waiting := rfl
  obtain ⟨item, rest, hitems⟩ := List.exists_cons_of_ne_nil hi
  cases item with
  | job a =>
    have htake : b.queue.take = { b.queue with worker := .busy a, items := rest } := by
      simp only [WorkQueue.take, hw, hitems]
    rw [left, left, hwaiting, hsteps, htake, hitems, List.length_cons]
    simp only [jobSteps, hfresh]
    omega
  | stop =>
    have htake : b.queue.take =
        { b.queue with worker := .gone, items := rest, unfinished := b.queue.unfinished - 1 } := by
      simp only [WorkQueue.take, hw, hitems]
    rw [left, left, hwaiting, hsteps, htake, hitems, List.length_cons]
    simp only [jobSteps]
    omega

theorem left_finish_le (fault? : List Fault) (hw : b.queue.worker = .busy job)
    (hs : b.undelivered = []) :
    ({ b.finish with escaped := fault? } : Backend).left + b.jobSteps ≤ b.left := by
  have hitems : b.queue.finish.items = b.queue.items := by simp only [WorkQueue.finish, hw]
  have hsteps : ({ b.finish with escaped := fault? } : Backend).jobSteps = 0 := by
    apply jobSteps_of_not_busy
    simp [finish, WorkQueue.finish, hw]
  have hwaiting : ({ b.finish with escaped := fault? } : Backend).waiting = b.waiting := by
    rw [waiting, waiting, hs]
    rfl
  rw [left, left, hsteps, hwaiting]
  simp only [finish, hitems]
  omega

theorem left_answer_lt (hw : b.queue.worker = .busy job) (hs : b.stage = .awaiting sent)
    (r : Response) : (b.answer job r).left < b.left := by
  have hwaiting := length_waiting_answer job r (b := b) (by simp [hs])
  have hbefore : b.jobSteps = 2 := by simp only [jobSteps, hw, hs]
  rcases answer_queue_and_stage job r b with ⟨hqueue, outcome, ns, hstage⟩ | ⟨hqueue, hstage⟩
  · have hafter : (b.answer job r).jobSteps = 1 := by simp only [jobSteps, hqueue, hstage, hw]
    rw [left, left, hafter, hbefore, hqueue]
    omega
  · have hafter : (b.answer job r).jobSteps = 0 := by
      apply jobSteps_of_not_busy
      simp [hqueue, WorkQueue.finish, hw]
    have hitems : b.queue.finish.items = b.queue.items := by simp only [WorkQueue.finish, hw]
    rw [left, left, hafter, hbefore, hqueue, hitems]
    omega

theorem left_deliver_lt (hq : b.IsQuiet) (hw : b.queue.worker = .busy job)
    (hs : b.stage = .delivering outcome (n :: ns)) :
    (deliver outcome n { b with stage := .delivering outcome ns }).left < b.left := by
  obtain ⟨events, he⟩ :=
    exists_deliver_eq (b := { b with stage := .delivering outcome ns }) hq outcome n
  have hbefore : b.waiting = n :: (ns ++ waitingIn b.registries) := by
    rw [waiting, undelivered, hs]
    rfl
  rw [he, left, left, hbefore, List.length_cons]
  simp only [jobSteps, waiting, undelivered, hw, hs]
  omega

/-- Each step brings the worker nearer to rest. -/
theorem left_work_lt (ho : b.IsOrderly) (hq : b.IsQuiet) (hb : b.HasBodies)
    (h : b.isResting = false) (transport : Sent → Reply) : (b.work transport).left < b.left := by
  have hstep := workStep transport b
  generalize b.work transport = c at hstep ⊢
  cases hstep with
  | taken hw =>
    obtain ⟨hidle, hitems⟩ := idle_of_not_resting h hw
    exact left_take_lt ho hidle hitems
  | sent hw hs =>
    simp only [left, jobSteps, waiting, undelivered, note, hw, hs]
    omega
  | unsent hw hs hp => exact (hb.not_unsent hw hs _ hp).elim
  | replied hw hs => exact left_answer_lt hw hs _
  | @abandoned job sent fault hw hs =>
    have hnone : b.undelivered = [] := undelivered_of_not_delivering (by simp [hs])
    have hle := left_finish_le (b.escaped ++ [fault]) hw hnone
    have hbefore : b.jobSteps = 2 := by simp only [jobSteps, hw, hs]
    rw [hbefore] at hle
    exact Nat.lt_of_succ_le (Nat.le_of_succ_le hle)
  | delivered hw hs => exact left_deliver_lt hq hw hs
  | finished hw hs =>
    have hnone : b.undelivered = [] := by simp only [undelivered, hs]
    have hle := left_finish_le b.escaped hw hnone
    have hbefore : b.jobSteps = 1 := by simp only [jobSteps, hw, hs]
    rw [hbefore] at hle
    exact Nat.lt_of_succ_le hle

end Backend

end SubscriptionClient
