import SubscriptionClient.Proofs.Backend.Sharing

/-!
# What callers can rely on

A future that is done stays as it is. All who are registered under a key from the first on until the
batch is released get one and the same outcome, unless they are cancelled before. When the worker
has nothing left to do, nobody waits any more.
-/

namespace SubscriptionClient.Backend

variable {E : Surroundings} {headers : List (Text × Text)} {clearable : Bool} {name : Text}
  {b c : Backend}

structure KeepsPromises (E : Surroundings) (headers : List (Text × Text)) (name : Text)
    (b : Backend) : Prop where
  stable {c : Backend} {n : Nat} {s : FutureState (Attempt Outcome)} :
    Reaches E b c → b.state? n = some s → s.isDone = true →
      ∃ s', c.state? n = some s' ∧ s'.isDone = true ∧ s'.outcome? = s.outcome? ∧
        s'.isCancelled = s.isCancelled
  /-- The journal registers each future that waits for a request once. -/
  enrolled : b.enrolled = b.journal.filterMap Entry.registered?
  /-- The requests are those of the answers in the journal, one for each, and of the answer that is
  awaited. -/
  requests : b.requests = b.journal.filterMap (Entry.request? headers) ++ b.stage.request?.toList
  /-- What is released is the batch since its first future, with what the response for the job of
  that first future means; everyone in it is given that. -/
  shared {before mid after : List Entry} {n : Nat} {job : Job} {e : Entry} {batch : List Nat}
    {outcome : Attempt Outcome} :
    b.journal = before ++ .registered n job .first :: mid ++ e :: after →
      (∀ e ∈ mid, e.job.slot = job.slot → e.release? = none) → e.job.slot = job.slot →
      e.release? = some (batch, outcome) →
        e.job = job ∧ batch = n :: mid.filterMap (Entry.registeredIn? job.slot) ∧
          e.IsFounded E headers name ∧ ∀ m ∈ batch, IsGiven E outcome b m
  /-- When the worker has nothing left to do, everyone is done, and no batch is left that was not
  released. -/
  rest : b.isResting = true →
    (∀ t ∈ b.tickets, t.future.isDone = true) ∧ (∀ f, (b.registries f).entries = []) ∧
      ∀ n job registration, .registered n job registration ∈ b.journal →
        ∃ e ∈ b.journal, ∃ batch outcome, e.release? = some (batch, outcome) ∧ n ∈ batch

theorem state?_eq_some_iff {n : Nat} {s : FutureState (Attempt Outcome)} :
    b.state? n = some s ↔ ∃ t, b.tickets[n]? = some t ∧ t.future.state = s := by
  simp [state?]

theorem Reaches.stable {n : Nat} {s : FutureState (Attempt Outcome)} (h : Reaches E b c)
    (hn : b.state? n = some s) (hs : s.isDone = true) :
    ∃ s', c.state? n = some s' ∧ s'.isDone = true ∧ s'.outcome? = s.outcome? ∧
      s'.isCancelled = s.isCancelled := by
  obtain ⟨t, ht, rfl⟩ := state?_eq_some_iff.mp hn
  obtain ⟨t', ht', -, hbecomes⟩ := h.ticket ht
  exact ⟨t'.future.state, state?_eq_some_iff.mpr ⟨t', ht', rfl⟩, hbecomes.isDone hs,
    hbecomes.outcome?_eq hs, hbecomes.isCancelled_eq hs⟩

theorem Reaches.state?_of_finished {n : Nat} {outcome : Attempt Outcome} (h : Reaches E b c)
    (hn : b.state? n = some (.finished outcome)) : c.state? n = some (.finished outcome) := by
  obtain ⟨t, ht, hfinished⟩ := state?_eq_some_iff.mp hn
  obtain ⟨t', ht', -, hbecomes⟩ := h.ticket ht
  rw [hfinished] at hbecomes
  exact state?_eq_some_iff.mpr ⟨t', ht', hbecomes.eq_of_finished⟩

/-! ## Rest -/

theorem outstanding_of_isResting (h : b.IsOrderly) (hr : b.isResting = true) :
    b.outstanding = [] := by
  have hw : ∀ job, b.queue.worker ≠ .busy job := by
    intro job hb
    simp [isResting, hb] at hr
  have hitems : b.queue.items = [] := by
    cases hb : b.queue.worker with
    | absent => exact h.queue.absent hb
    | idle => simpa [isResting, hb] using hr
    | busy job => exact (hw job hb).elim
    | gone => exact (h.queue.gone hb).1
  simp [outstanding, unanswered_of_not_busy hw, WorkQueue.waitingJobs, hitems]

theorem batch?_of_isResting (h : b.IsSound E headers name) (hr : b.isResting = true) (s : Slot) :
    (b.registries s.1).batch? s.2 = none := by
  have hm := h.matched.batch_iff s
  rw [outstanding_of_isResting h.orderly hr] at hm
  cases hb : (b.registries s.1).batch? s.2 with
  | none => rfl
  | some batch => simpa using hm.mp ⟨batch, hb⟩

theorem waiting_of_isResting (h : b.IsSound E headers name) (hr : b.isResting = true) :
    b.waiting = [] := by
  have hw : ∀ job, b.queue.worker ≠ .busy job := by
    intro job hb
    simp [isResting, hb] at hr
  have hentries := waitingIn_eq_nil (batch?_of_isResting h hr)
  rw [waiting, undelivered_of_not_delivering (by simp [h.orderly.fresh hw]), List.nil_append,
    waitingIn, List.flatMap_eq_nil_iff]
  intro f _
  rw [Registry.waiting, hentries f, List.flatMap_nil]

theorem isDone_of_isResting (h : b.IsSound E headers name) (hr : b.isResting = true) {t : Ticket}
    (ht : t ∈ b.tickets) : t.future.isDone = true := by
  obtain ⟨n, hn⟩ := List.mem_iff_getElem?.mp ht
  cases hs : t.future.state with
  | pending =>
    have hwaits := h.awaited.pending hn hs
    simp [waiting_of_isResting h hr] at hwaits
  | cancelled | cancelNoticed | finished => simp [Future.isDone, hs, FutureState.isDone]

theorem released_of_isResting (h : b.IsSound E headers name) (hr : b.isResting = true) {n : Nat}
    {job : Job} {registration : Registration} (hn : .registered n job registration ∈ b.journal) :
    ∃ e ∈ b.journal, ∃ batch outcome, e.release? = some (batch, outcome) ∧ n ∈ batch := by
  rcases h.told.coherent.open_or_released hn with ⟨other, ns, ho, -⟩ | hreleased
  · have hnone := h.told.batch?_eq job.slot
    rw [batch?_of_isResting h hr, ho] at hnone
    exact absurd hnone nofun
  · exact hreleased

theorem IsSound.keepsPromises (h : b.IsSound E headers name) : b.KeepsPromises E headers name where
  stable := Reaches.stable
  enrolled := h.enrolled
  requests := h.requested.requests_eq
  shared := by
    intro before mid after n job e batch outcome hj hmid hs hr
    obtain ⟨hjob, hbatch⟩ := (hj ▸ h.told.coherent).release_eq hmid hs hr
    have he : e ∈ b.journal := by simp [hj]
    exact ⟨hjob, hbatch, h.founded e he, h.given e he batch outcome hr⟩
  rest := fun hr => ⟨fun _ => isDone_of_isResting h hr, waitingIn_eq_nil (batch?_of_isResting h hr),
    fun _ _ _ => released_of_isResting h hr⟩

/-- Promises are kept at every moment of every run, whatever callers and the worker do and in
whatever order, as long as every reply of the transport has a response in it. -/
theorem promises_kept (hE : E.IsComplete) (headers : List (Text × Text)) (clearable : Bool)
    (name : Text) :
    (∀ actions, E.Allows actions →
      Reaches E (start headers clearable name) ((start headers clearable name).run actions)) ∧
    ∀ b, Reaches E (start headers clearable name) b → b.KeepsPromises E headers name :=
  ⟨fun _ ha => reaches_run ha _, fun _ hb => (isSound_of_reaches hE hb).keepsPromises⟩

/-- Two callers share a request that the transport does not carry out; the first cancels. -/
def lostRequest : List Action :=
  twoCallers ++ .cancel 0 :: List.replicate 5 (.work fun _ => .raised ⟨"TimeoutError".toText, []⟩)

theorem promises_kept_for_lost_request :
    anySurroundings.IsComplete ∧ anySurroundings.Allows lostRequest ∧
      ((start [] false "requests".toText).run lostRequest).KeepsPromises anySurroundings []
        "requests".toText ∧
      ((start [] false "requests".toText).run lostRequest).isResting = true := by
  have hE : anySurroundings.IsComplete := fun _ _ h => h
  have hA : anySurroundings.Allows lostRequest := by
    refine ⟨?_, fun _ => trivial⟩
    intro t ht s
    simp only [lostRequest, twoCallers, List.cons_append, List.nil_append, List.replicate,
      List.mem_cons, reduceCtorEq, Action.work.injEq, List.not_mem_nil, or_false, false_or,
      or_self] at ht
    subst ht
    exact ⟨_, rfl⟩
  have hall := promises_kept hE [] false "requests".toText
  exact ⟨hE, hA, hall.2 _ (hall.1 lostRequest hA), by decide⟩

end SubscriptionClient.Backend
