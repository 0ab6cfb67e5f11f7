import SubscriptionClient.Proofs.Backend.Steps
import SubscriptionClient.Proofs.Concurrency.Serial

/-!
# What is in flight

The accepted jobs whose batches have not been taken out are outstanding: those that wait in the
queue, and the worker's own until its response is there. The invariant ties them to the registries:
there is a batch under a key exactly while one outstanding job has that family and key.
-/

namespace SubscriptionClient

/-- Where those wait who wait for a job: a family and a key. -/
abbrev Slot := Family × Text

def Job.slot (j : Job) : Slot := (j.operation.family, j.key)

namespace Backend

/-- The worker's job, as long as its batch is not taken out. -/
def unanswered (b : Backend) : List Job :=
  match b.queue.worker, b.stage with
  | .busy job, .fresh | .busy job, .awaiting _ => [job]
  | _, _ => []

def outstanding (b : Backend) : List Job := b.unanswered ++ b.queue.waitingJobs

def batch? (s : Slot) (b : Backend) : Option (List Nat) := (b.registries s.1).batch? s.2

/-! ## Steps and outstanding jobs -/

/-- The queue is in order, and only a busy worker is past the first stage. -/
structure IsOrderly (b : Backend) : Prop where
  queue : b.queue.IsSerial
  fresh : (∀ job, b.queue.worker ≠ .busy job) → b.stage = .fresh

variable {E : Surroundings} {b c : Backend}

theorem unanswered_of_not_busy (h : ∀ job, b.queue.worker ≠ .busy job) : b.unanswered = [] := by
  unfold unanswered
  split
  · rename_i job hw _
    exact (h job hw).elim
  · rename_i job _ hw _
    exact (h job hw).elim
  · rfl

theorem unanswered_of_busy {job : Job} (hw : b.queue.worker = .busy job) :
    b.unanswered = match b.stage with
      | .delivering _ _ => []
      | _ => [job] := by
  cases hs : b.stage <;> simp [unanswered, hw, hs]

theorem isOrderly_start (headers : List (Text × Text)) (clearable : Bool) (name : Text) :
    (start headers clearable name).IsOrderly :=
  ⟨WorkQueue.isSerial_opened name, fun _ => rfl⟩

theorem outstanding_submit {job : Job} {queue : WorkQueue Job}
    (h : b.queue.submit job = .ok queue) (hc : c.queue = queue) (hs : c.stage = b.stage) :
    c.outstanding = b.outstanding ++ [job] := by
  have hu : c.unanswered = b.unanswered := by
    by_cases hb : ∃ j, b.queue.worker = .busy j
    · obtain ⟨j, hj⟩ := hb
      have hj' := (WorkQueue.busy_submit_iff h).mpr hj
      rw [unanswered_of_busy (hc ▸ hj'), unanswered_of_busy hj, hs]
    · have hb' : ∀ j, b.queue.worker ≠ .busy j := fun j hj => hb ⟨j, hj⟩
      rw [unanswered_of_not_busy hb', unanswered_of_not_busy]
      intro j hj
      exact hb' j ((WorkQueue.busy_submit_iff h).mp (hc ▸ hj))
  rw [outstanding, outstanding, hu, hc, WorkQueue.waitingJobs_submit h, List.append_assoc]

theorem outstanding_close (b : Backend) :
    ({ b with queue := b.queue.close } : Backend).outstanding = b.outstanding := by
  simp [outstanding, unanswered, WorkQueue.worker_close]

theorem outstanding_take (h : b.IsOrderly) (hw : ∀ job, b.queue.worker ≠ .busy job) :
    ({ b with queue := b.queue.take } : Backend).outstanding = b.outstanding := by
  have hs := h.fresh hw
  have hu := unanswered_of_not_busy hw
  rw [outstanding, outstanding, hu]
  unfold WorkQueue.take
  split
  · rename_i a rest _ hitems
    simp [unanswered, hs, WorkQueue.waitingJobs, hitems, QueueItem.job?]
  · rename_i rest _ hitems
    simp [unanswered, WorkQueue.waitingJobs, hitems, QueueItem.job?, List.filterMap_cons]
  · rw [hu]

theorem outstanding_eq_cons {job : Job} (hw : b.queue.worker = .busy job)
    (hs : ∀ outcome ns, b.stage ≠ .delivering outcome ns) :
    b.outstanding = job :: b.queue.waitingJobs := by
  rw [outstanding, unanswered_of_busy hw]
  cases h : b.stage with
  | delivering outcome ns => exact (hs outcome ns h).elim
  | fresh | awaiting s => rfl

theorem outstanding_of_delivering {job : Job} {outcome : Attempt Outcome} {ns : List Nat}
    (hw : b.queue.worker = .busy job) (hs : b.stage = .delivering outcome ns) :
    b.outstanding = b.queue.waitingJobs := by
  simp [outstanding, unanswered, hw, hs]

theorem outstanding_eq_of_awaited {job : Job} (hq : c.queue = b.queue)
    (hw : b.queue.worker = .busy job) (hb : ∀ outcome ns, b.stage ≠ .delivering outcome ns)
    (hc : ∀ outcome ns, c.stage ≠ .delivering outcome ns) : c.outstanding = b.outstanding := by
  rw [outstanding_eq_cons (hq ▸ hw) hc, outstanding_eq_cons hw hb, hq]

theorem outstanding_eq_of_delivering {job : Job} {outcome outcome' : Attempt Outcome}
    {ns ns' : List Nat} (hq : c.queue = b.queue) (hw : b.queue.worker = .busy job)
    (hb : b.stage = .delivering outcome ns) (hc : c.stage = .delivering outcome' ns') :
    c.outstanding = b.outstanding := by
  rw [outstanding_of_delivering (hq ▸ hw) hc, outstanding_of_delivering hw hb, hq]

theorem outstanding_finish {job : Job} {outcome : Attempt Outcome}
    (hw : b.queue.worker = .busy job) (hs : b.stage = .delivering outcome []) :
    b.finish.outstanding = b.outstanding := by
  rw [outstanding_of_delivering hw hs]
  simp [outstanding, unanswered, finish, WorkQueue.finish, WorkQueue.waitingJobs, hw]

/-! ## Registries and outstanding jobs -/

/-- There is a batch under a key exactly while a job of that family and key is outstanding, and
never are there two such jobs. -/
structure IsMatched (registries : Family → Registry Nat) (jobs : List Job) : Prop where
  nodup_keys (f : Family) : (registries f).keys.Nodup
  nodup_slots : (jobs.map Job.slot).Nodup
  batch_iff (s : Slot) :
    (∃ batch, (registries s.1).batch? s.2 = some batch) ↔ s ∈ jobs.map Job.slot
  ne_nil (s : Slot) : (registries s.1).batch? s.2 ≠ some []

variable {registries : Family → Registry Nat} {jobs : List Job} {job : Job} {n : Nat}

theorem isMatched_start (headers : List (Text × Text)) (clearable : Bool) (name : Text) :
    IsMatched (start headers clearable name).registries
      (start headers clearable name).outstanding where
  nodup_keys := fun _ => List.nodup_nil
  nodup_slots := List.nodup_nil
  batch_iff := by simp [start, outstanding, unanswered, WorkQueue.opened, WorkQueue.waitingJobs]
  ne_nil := by simp [start]

/-- The registries after a registration for a job. -/
def registeredFor (job : Job) (n : Nat) (registries : Family → Registry Nat) :
    Family → Registry Nat :=
  fun f => if f = job.operation.family then
    ((registries job.operation.family).register job.key n).1 else registries f

theorem batch?_registeredFor_self (job : Job) (n : Nat) (registries : Family → Registry Nat) :
    (registeredFor job n registries job.slot.1).batch? job.slot.2 =
      some (((registries job.slot.1).batch? job.slot.2).getD [] ++ [n]) := by
  simp [registeredFor, Job.slot, Registry.batch?_register_self]

theorem batch?_registeredFor_of_ne {s : Slot} (h : job.slot ≠ s) (n : Nat)
    (registries : Family → Registry Nat) :
    (registeredFor job n registries s.1).batch? s.2 = (registries s.1).batch? s.2 := by
  obtain ⟨f, k⟩ := s
  by_cases hf : f = job.operation.family
  · have hk : job.key ≠ k := by
      rintro rfl
      exact h (by rw [Job.slot, hf])
    simp [registeredFor, hf, Registry.batch?_register_of_ne hk]
  · simp [registeredFor, hf]

theorem nodup_keys_registeredFor (h : ∀ f, (registries f).keys.Nodup) (job : Job) (n : Nat)
    (f : Family) : (registeredFor job n registries f).keys.Nodup := by
  unfold registeredFor
  split
  · exact Registry.nodup_keys_register (h job.operation.family)
  · exact h f

theorem ne_nil_registeredFor (h : ∀ s : Slot, (registries s.1).batch? s.2 ≠ some []) (job : Job)
    (n : Nat) (s : Slot) : (registeredFor job n registries s.1).batch? s.2 ≠ some [] := by
  by_cases hs : job.slot = s
  · subst hs
    rw [batch?_registeredFor_self]
    simp
  · rw [batch?_registeredFor_of_ne hs]
    exact h s

theorem IsMatched.join (h : IsMatched registries jobs) {batch : List Nat}
    (hb : (registries job.operation.family).batch? job.key = some batch) (n : Nat) :
    IsMatched (registeredFor job n registries) jobs where
  nodup_keys := nodup_keys_registeredFor h.nodup_keys job n
  nodup_slots := h.nodup_slots
  batch_iff := by
    intro s
    rw [← h.batch_iff s]
    by_cases hs : job.slot = s
    · subst hs
      exact ⟨fun _ => ⟨batch, hb⟩, fun _ => ⟨_, batch?_registeredFor_self job n registries⟩⟩
    · rw [batch?_registeredFor_of_ne hs]
  ne_nil := ne_nil_registeredFor h.ne_nil job n

theorem IsMatched.start (h : IsMatched registries jobs)
    (hb : (registries job.operation.family).batch? job.key = none) (n : Nat) :
    IsMatched (registeredFor job n registries) (jobs ++ [job]) where
  nodup_keys := nodup_keys_registeredFor h.nodup_keys job n
  nodup_slots := by
    have hnew : job.slot ∉ jobs.map Job.slot := by
      rw [← h.batch_iff]
      rintro ⟨batch, hbatch⟩
      exact Option.some_ne_none batch (hbatch.symm.trans hb)
    rw [List.map_append, List.nodup_append_comm]
    exact List.nodup_cons.mpr ⟨hnew, h.nodup_slots⟩
  batch_iff := by
    intro s
    by_cases hs : job.slot = s
    · subst hs
      exact ⟨fun _ => by simp, fun _ => ⟨_, batch?_registeredFor_self job n registries⟩⟩
    · rw [batch?_registeredFor_of_ne hs, h.batch_iff]
      simp [Ne.symm hs]
  ne_nil := ne_nil_registeredFor h.ne_nil job n

/-- The registries after the batch of a job is taken out. -/
def drainedOf (job : Job) (registry : Registry Nat) (registries : Family → Registry Nat) :
    Family → Registry Nat :=
  fun f => if f = job.operation.family then registry else registries f

variable {batch : List Nat} {registry : Registry Nat}

theorem batch?_drainedOf_self
    (hd : (registries job.operation.family).drain? job.key = some (batch, registry))
    (hn : (registries job.operation.family).keys.Nodup) :
    (drainedOf job registry registries job.slot.1).batch? job.slot.2 = none := by
  simp [drainedOf, Job.slot, Registry.batch?_of_drain?_self hd hn]

theorem batch?_drainedOf_of_ne {s : Slot}
    (hd : (registries job.operation.family).drain? job.key = some (batch, registry))
    (h : job.slot ≠ s) :
    (drainedOf job registry registries s.1).batch? s.2 = (registries s.1).batch? s.2 := by
  obtain ⟨f, k⟩ := s
  by_cases hf : f = job.operation.family
  · have hk : job.key ≠ k := by
      rintro rfl
      exact h (by rw [Job.slot, hf])
    simp [drainedOf, hf, Registry.batch?_of_drain?_of_ne hd hk]
  · simp [drainedOf, hf]

theorem IsMatched.drain (h : IsMatched registries (job :: jobs))
    (hd : (registries job.operation.family).drain? job.key = some (batch, registry)) :
    IsMatched (drainedOf job registry registries) jobs where
  nodup_keys := by
    intro f
    unfold drainedOf
    split
    · exact Registry.nodup_keys_of_drain? hd (h.nodup_keys _)
    · exact h.nodup_keys f
  nodup_slots := (List.nodup_cons.mp h.nodup_slots).2
  batch_iff := by
    intro s
    by_cases hs : job.slot = s
    · subst hs
      rw [batch?_drainedOf_self hd (h.nodup_keys _)]
      simpa using (List.nodup_cons.mp h.nodup_slots).1
    · rw [batch?_drainedOf_of_ne hd hs, h.batch_iff]
      simp [Ne.symm hs]
  ne_nil := by
    intro s
    by_cases hs : job.slot = s
    · subst hs
      rw [batch?_drainedOf_self hd (h.nodup_keys _)]
      exact (Option.some_ne_none _).symm
    · rw [batch?_drainedOf_of_ne hd hs]
      exact h.ne_nil s

theorem IsMatched.exists_drain? (h : IsMatched registries (job :: jobs)) :
    ∃ batch registry,
      (registries job.operation.family).drain? job.key = some (batch, registry) := by
  obtain ⟨batch, hb⟩ := (h.batch_iff job.slot).mpr (by simp)
  exact ⟨batch, _, Registry.drain?_eq_some_iff.mpr ⟨hb, rfl⟩⟩

/-- The worker that has a response finds the batch of its job. -/
theorem IsMatched.exists_drain?_of_busy (h : IsMatched b.registries b.outstanding)
    (hw : b.queue.worker = .busy job) (hs : ∀ outcome ns, b.stage ≠ .delivering outcome ns) :
    ∃ batch registry,
      (b.registries job.operation.family).drain? job.key = some (batch, registry) := by
  rw [outstanding_eq_cons hw hs] at h
  exact h.exists_drain?

theorem answer_of_drain? {r : Response}
    (hd : (b.registries job.operation.family).drain? job.key = some (batch, registry)) :
    b.answer job r =
      { b with
        registries := drainedOf job registry b.registries
        journal := b.journal ++ [.answered job batch r]
        stage := .delivering (job.operation.handle r) batch } := by
  simp only [answer, hd]
  rfl

theorem headers_answer (job : Job) (r : Response) (b : Backend) :
    (b.answer job r).headers = b.headers := by
  unfold answer
  dsimp only
  split <;> rfl

theorem name_answer (job : Job) (r : Response) (b : Backend) :
    (b.answer job r).queue.name = b.queue.name := by
  unfold answer
  dsimp only
  split
  · rfl
  · exact WorkQueue.name_finish b.queue

theorem tickets_answer (job : Job) (r : Response) (b : Backend) :
    (b.answer job r).tickets = b.tickets := by
  unfold answer
  dsimp only
  split <;> rfl

/-! ## The invariant -/

theorem answer_queue_and_stage (job : Job) (r : Response) (b : Backend) :
    ((b.answer job r).queue = b.queue ∧
        ∃ outcome ns, (b.answer job r).stage = .delivering outcome ns) ∨
      ((b.answer job r).queue = b.queue.finish ∧ (b.answer job r).stage = .fresh) := by
  unfold answer
  dsimp only
  split
  · exact .inl ⟨rfl, _, _, rfl⟩
  · exact .inr ⟨rfl, rfl⟩

theorem isOrderly_answer (h : b.IsOrderly) (hw : b.queue.worker = .busy job) (r : Response) :
    (b.answer job r).IsOrderly := by
  rcases answer_queue_and_stage job r b with ⟨hq, -⟩ | ⟨hq, hs⟩
  · exact ⟨hq ▸ h.queue, fun hb => (hb job (hq ▸ hw)).elim⟩
  · exact ⟨hq ▸ WorkQueue.isSerial_finish h.queue, fun _ => hs⟩

theorem exists_of_followedBy? {next : Script} (h : b.followedBy? n next = some c) :
    ∃ t future, b.tickets[n]? = some t ∧ t.future.followedBy? next = some future ∧
      c = b.setFuture n future := by
  simp only [followedBy?, Option.bind_eq_bind, Option.pure_def, Option.bind_eq_some_iff,
    Option.some.injEq] at h
  obtain ⟨t, ht, future, hf, rfl⟩ := h
  exact ⟨t, future, ht, hf, rfl⟩

theorem exists_noteDone_eq (n : Nat) (b : Backend) :
    ∃ events, b.noteDone n = { b with events } := by
  unfold noteDone
  split
  · exact ⟨_, rfl⟩
  · exact ⟨b.events, rfl⟩

theorem IsOrderly.step (h : b.IsOrderly) (hs : Step E b c) : c.IsOrderly := by
  cases hs with
  | raised | settled | joined | refused | cancelled | cleared => exact ⟨h.queue, h.fresh⟩
  | accepted label _ hq =>
    refine ⟨WorkQueue.isSerial_submit h.queue hq, fun hb => h.fresh fun j hj => ?_⟩
    exact hb j ((WorkQueue.busy_submit_iff hq).mpr hj)
  | followed hf =>
    obtain ⟨t, future, -, -, rfl⟩ := exists_of_followedBy? hf
    exact ⟨h.queue, h.fresh⟩
  | reported n =>
    obtain ⟨events, he⟩ := exists_noteDone_eq n b
    rw [he]
    exact ⟨h.queue, h.fresh⟩
  | closed =>
    refine ⟨WorkQueue.isSerial_close h.queue, fun hb => h.fresh ?_⟩
    simpa [WorkQueue.worker_close] using hb
  | taken hb => exact ⟨WorkQueue.isSerial_take h.queue, fun _ => h.fresh hb⟩
  | sent hw => exact ⟨h.queue, fun hb => (hb _ hw).elim⟩
  | unsent hw | replied hw => exact isOrderly_answer h hw _
  | abandoned => exact ⟨WorkQueue.isSerial_finish h.queue, fun _ => rfl⟩
  | delivered hw | passedOver hw => exact ⟨h.queue, fun hb => (hb _ hw).elim⟩
  | finished => exact ⟨WorkQueue.isSerial_finish h.queue, fun _ => rfl⟩

theorem journal_enrol_of_joined (label : Text) {batch : List Nat}
    (h : (b.registries job.operation.family).batch? job.key = some batch) :
    (b.enrol label job).1.journal = b.journal ++ [.registered b.tickets.length job .joined] := by
  have hj := (Registry.register_snd_eq_joined_iff (b := b.tickets.length)).mpr ⟨batch, h⟩
  simp [enrol, handOut, record, setRegistry, hj]

theorem journal_enrol_of_first (label : Text)
    (h : (b.registries job.operation.family).batch? job.key = none) :
    (b.enrol label job).1.journal = b.journal ++ [.registered b.tickets.length job .first] := by
  have hf := (Registry.register_snd_eq_first_iff job.key b.tickets.length _).mpr h
  simp [enrol, handOut, record, setRegistry, hf]

/-- What a step may do with the registries, the outstanding jobs and the journal. -/
inductive SharingStep (b : Backend) :
    (Family → Registry Nat) → List Job → List Entry → Prop where
  | kept : SharingStep b b.registries b.outstanding b.journal
  | joined {job : Job} {batch : List Nat}
    (hb : (b.registries job.operation.family).batch? job.key = some batch) :
    SharingStep b (registeredFor job b.tickets.length b.registries) b.outstanding
      (b.journal ++ [.registered b.tickets.length job .joined])
  | accepted {job : Job} (hb : (b.registries job.operation.family).batch? job.key = none) :
    SharingStep b (registeredFor job b.tickets.length b.registries) (b.outstanding ++ [job])
      (b.journal ++ [.registered b.tickets.length job .first, .accepted job])
  | refused {job : Job} (hb : (b.registries job.operation.family).batch? job.key = none) :
    SharingStep b b.registries b.outstanding
      (b.journal ++ [.registered b.tickets.length job .first,
        .refused job [b.tickets.length] (.queueClosed b.queue.name)])
  | answered {job : Job} {batch : List Nat} {registry : Registry Nat} {r : Response}
    (ho : b.outstanding = job :: b.queue.waitingJobs)
    (hd : (b.registries job.operation.family).drain? job.key = some (batch, registry)) :
    SharingStep b (drainedOf job registry b.registries) b.queue.waitingJobs
      (b.journal ++ [.answered job batch r])

/-- The same, whatever the transport answers: a job may also be given up with its batch left where it
is, because there is none to be found or because the answer was malformed. -/
inductive RegistryStep (E : Surroundings) (b : Backend) :
    (Family → Registry Nat) → List Job → List Entry → Prop where
  | shared {registries : Family → Registry Nat} {jobs : List Job} {journal : List Entry}
    (h : SharingStep b registries jobs journal) : RegistryStep E b registries jobs journal
  | abandoned {job : Job} (ho : b.outstanding = job :: b.queue.waitingJobs)
    (h : (b.registries job.operation.family).drain? job.key = none ∨
      ∃ s reply fault, E.replies s reply ∧ reply.response? = .error fault) :
    RegistryStep E b b.registries b.queue.waitingJobs b.journal

theorem outstanding_abandon (hw : b.queue.worker = .busy job) (fault : Fault) :
    (b.abandon fault).outstanding = b.queue.waitingJobs := by
  simp [outstanding, unanswered, abandon, finish, WorkQueue.finish, WorkQueue.waitingJobs, hw]

theorem registryStep_answer (hw : b.queue.worker = .busy job)
    (hs : ∀ outcome ns, b.stage ≠ .delivering outcome ns) (r : Response) :
    RegistryStep E b (b.answer job r).registries (b.answer job r).outstanding
      (b.answer job r).journal := by
  have ho := outstanding_eq_cons hw hs
  cases hd : (b.registries job.operation.family).drain? job.key with
  | some drained =>
    rw [answer_of_drain? hd, outstanding_of_delivering]
    · exact .shared (.answered ho hd)
    · exact hw
    · rfl
  | none =>
    simp only [answer, hd]
    rw [outstanding_abandon hw]
    exact .abandoned ho (.inl hd)

theorem Step.registryStep (ho : b.IsOrderly) (hs : Step E b c) :
    RegistryStep E b c.registries c.outstanding c.journal := by
  cases hs with
  | raised | settled | cancelled | cleared => exact .shared .kept
  | joined label hb =>
    rw [journal_enrol_of_joined label hb]
    exact .shared (.joined hb)
  | @accepted label job queue hb hq =>
    have hjobs : Backend.outstanding ({ (b.enrol label job).1 with queue }.record (.accepted job)) =
        b.outstanding ++ [job] := outstanding_submit hq rfl rfl
    have hjournal : ({ (b.enrol label job).1 with queue }.record (.accepted job)).journal =
        b.journal ++ [.registered b.tickets.length job .first, .accepted job] := by
      simp [record, journal_enrol_of_first label hb]
    rw [hjobs, hjournal]
    exact .shared (.accepted hb)
  | refused label hb => exact .shared (.refused hb)
  | followed hf =>
    obtain ⟨t, future, -, -, rfl⟩ := exists_of_followedBy? hf
    exact .shared .kept
  | reported n =>
    obtain ⟨events, he⟩ := exists_noteDone_eq n b
    rw [he]
    exact .shared .kept
  | closed =>
    rw [outstanding_close]
    exact .shared .kept
  | taken hb =>
    rw [outstanding_take ho hb]
    exact .shared .kept
  | @sent job s hw hs =>
    have hjobs : Backend.outstanding { b.note (.sent s) with stage := .awaiting s } =
        b.outstanding :=
      outstanding_eq_of_awaited rfl hw (by simp [hs]) (by simp)
    rw [hjobs]
    exact .shared .kept
  | unsent hw hs | replied hw hs => exact registryStep_answer hw (by simp [hs]) _
  | abandoned hw hs hr hf =>
    rw [outstanding_abandon hw]
    exact .abandoned (outstanding_eq_cons hw (by simp [hs])) (.inr ⟨_, _, _, hr, hf⟩)
  | @delivered job outcome n ns t future scripts hw hs ht hd =>
    have hjobs : ({ b with stage := .delivering outcome ns }.setFuture n future).outstanding =
        b.outstanding :=
      outstanding_eq_of_delivering rfl hw hs rfl
    rw [hjobs]
    exact .shared .kept
  | @passedOver job outcome n ns hw hs =>
    have hjobs : Backend.outstanding { b with stage := .delivering outcome ns } = b.outstanding :=
      outstanding_eq_of_delivering rfl hw hs rfl
    rw [hjobs]
    exact .shared .kept
  | finished hw hs =>
    rw [outstanding_finish hw hs]
    exact .shared .kept

/-- If every reply has a response in it, no job is given up. -/
theorem RegistryStep.sharing (hE : E.IsComplete) (h : IsMatched b.registries b.outstanding)
    {journal : List Entry} (hs : RegistryStep E b registries jobs journal) :
    SharingStep b registries jobs journal := by
  cases hs with
  | shared hshared => exact hshared
  | abandoned hjobs hwhy =>
    rw [hjobs] at h
    rcases hwhy with hnone | ⟨s, reply, fault, hreply, hfault⟩
    · obtain ⟨batch, registry, hd⟩ := h.exists_drain?
      simp [hnone] at hd
    · obtain ⟨r, hr⟩ := hE s reply hreply
      simp [hr] at hfault

theorem Step.sharing (hE : E.IsComplete) (ho : b.IsOrderly)
    (h : IsMatched b.registries b.outstanding) (hs : Step E b c) :
    SharingStep b c.registries c.outstanding c.journal :=
  (hs.registryStep ho).sharing hE h

theorem IsMatched.step {registries : Family → Registry Nat} {jobs : List Job}
    {journal : List Entry} (h : IsMatched b.registries b.outstanding)
    (hs : SharingStep b registries jobs journal) : IsMatched registries jobs := by
  cases hs with
  | kept | refused => exact h
  | joined hb => exact h.join hb _
  | accepted hb => exact h.start hb _
  | answered ho hd =>
    rw [ho] at h
    exact h.drain hd

end Backend

end SubscriptionClient
