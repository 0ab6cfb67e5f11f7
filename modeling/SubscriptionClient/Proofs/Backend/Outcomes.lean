import SubscriptionClient.Proofs.Backend.Promises

/-!
# From an open batch to its outcome

The batch that is open for a job only grows until the job is answered, and then everyone in it is
given what the answer means. So at rest everyone who was once in an open batch has the outcome of
its job, or is cancelled.
-/

namespace SubscriptionClient

variable {job other : Job} {ns : List ℕ} {n : ℕ} {journal : List Entry}

/-- Whether those in `ns` are in the open batch of a job, or in the batch that it was answered
for. -/
inductive IsOwed (job : Job) (ns : List ℕ) (journal : List Entry) : Prop where
  | waiting {whole : List ℕ} (h : openBatch job.slot journal = some (job, whole))
    (hns : ns <+: whole)
  | answered {whole : List ℕ} {r : Response} (h : .answered job whole r ∈ journal)
    (hns : ns <+: whole)

theorem openBatch_joined (h : openBatch job.slot journal = some (job, ns)) (n : ℕ) (other : Job) :
    ∃ whole, openBatch job.slot (journal ++ [.registered n other .joined]) = some (job, whole) ∧
      ns <+: whole := by
  rw [openBatch_concat, h]
  by_cases hs : other.slot = job.slot
  · exact ⟨ns ++ [n], by simp [Entry.openAfter, hs], List.prefix_append ns [n]⟩
  · exact ⟨ns, openAfter_of_ne (e := .registered n other .joined) hs _, List.prefix_rfl⟩

theorem openBatch_append_of_ne {es : List Entry} (h : ∀ e ∈ es, e.job.slot ≠ job.slot) :
    openBatch job.slot (journal ++ es) = openBatch job.slot journal := by
  induction es generalizing journal with
  | nil => rw [List.append_nil]
  | cons e es ih =>
    rw [← List.singleton_append, ← List.append_assoc,
      ih fun e he => h e (List.mem_cons_of_mem _ he), openBatch_concat,
      openAfter_of_ne (h e List.mem_cons_self)]

namespace Backend

variable {E : Surroundings} {headers : List (Text × Text)} {clearable : Bool} {name : Text}
  {b c : Backend} {outcome : Attempt Outcome}

def HasOutcome (E : Surroundings) (outcome : Attempt Outcome) (b : Backend) (n : ℕ) : Prop :=
  b.state? n = some (.finished outcome) ∨
    ∃ s, b.state? n = some s ∧ s.isCancelled = true ∧ E.cancels n

theorem IsGiven.hasOutcome (h : IsGiven E outcome b n) (hb : b.IsOrderly)
    (hr : b.isResting = true) : b.HasOutcome E outcome n := by
  obtain ⟨t, ht, hfinished | hcancelled | ⟨-, ns, hs, -⟩⟩ := h
  · exact .inl (state?_eq_some_iff.mpr ⟨t, ht, hfinished⟩)
  · exact .inr ⟨_, state?_eq_some_iff.mpr ⟨t, ht, rfl⟩, hcancelled⟩
  · have hw : ∀ job, b.queue.worker ≠ .busy job := by
      intro job hw
      simp [isResting, hw] at hr
    exact Stage.noConfusion (hs.symm.trans (hb.fresh hw))

theorem IsGiven.eq_of_finished {x : Attempt Outcome} (h : IsGiven E outcome b n)
    (hx : b.state? n = some (.finished x)) : x = outcome := by
  obtain ⟨t, ht, hstate⟩ := h
  obtain ⟨u, hu, hfinished⟩ := state?_eq_some_iff.mp hx
  obtain rfl := Option.some.inj (ht.symm.trans hu)
  rw [hfinished] at hstate
  rcases hstate with hstate | ⟨hcancelled, -⟩ | ⟨hpending, -⟩
  · exact FutureState.finished.inj hstate
  · cases hcancelled
  · cases hpending

/-! ## Open batches -/

theorem SharingStep.journal_grows {registries : Family → Registry ℕ} {jobs : List Job}
    (hs : SharingStep b registries jobs journal) : b.journal <+: journal := by
  cases hs with
  | kept => exact List.prefix_rfl
  | joined | accepted | refused | answered => exact List.prefix_append _ _

theorem Reaches.journal_grows (hE : E.IsComplete) (hb : b.IsSound E headers name)
    (hr : Reaches E b c) : b.journal <+: c.journal := by
  induction hr with
  | refl => exact List.prefix_rfl
  | tail hc hs ih =>
    have hsound := hb.of_reaches hE hc
    exact ih.trans (hs.sharing hE hsound.orderly hsound.matched).journal_grows

end Backend

namespace IsOwed

open Backend

variable {E : Surroundings} {headers : List (Text × Text)} {name : Text} {b c : Backend}

theorem step {registries : Family → Registry ℕ} {jobs : List Job}
    (h : IsOwed job ns b.journal) (ht : IsTold b.registries b.outstanding b.journal)
    (hm : IsMatched b.registries b.outstanding) (hs : SharingStep b registries jobs journal) :
    IsOwed job ns journal := by
  cases h with
  | answered h hns => exact .answered (hs.journal_grows.subset h) hns
  | @waiting whole h hns =>
    -- nobody can be the first under a key whose batch is open
    have hfirst {other : Job} (hb : (b.registries other.operation.family).batch? other.key = none) :
        other.slot ≠ job.slot := by
      intro hslot
      rw [← hslot, ht.openBatch_eq_none hb] at h
      cases h
    cases hs with
    | kept => exact .waiting h hns
    | @joined other batch hb =>
      obtain ⟨whole', h', hgrown⟩ := openBatch_joined h b.tickets.length other
      exact .waiting h' (hns.trans hgrown)
    | accepted hb =>
      refine .waiting ?_ hns
      rwa [openBatch_append_of_ne]
      simp [Entry.job, hfirst hb]
    | refused hb =>
      refine .waiting ?_ hns
      rwa [openBatch_append_of_ne]
      simp [Entry.job, hfirst hb]
    | @answered other batch registry r ho hd =>
      by_cases hslot : other.slot = job.slot
      · rw [ho] at ht hm
        have hopen := ht.openBatch_eq hm (Registry.drain?_eq_some_iff.mp hd).1
        rw [hslot, h] at hopen
        obtain ⟨rfl, rfl⟩ := Prod.mk.inj (Option.some.inj hopen)
        exact .answered (List.mem_append_right _ (List.mem_singleton_self _)) hns
      · refine .waiting ?_ hns
        rwa [openBatch_append_of_ne]
        simpa [Entry.job] using hslot

theorem of_reaches (hE : E.IsComplete) (hb : b.IsSound E headers name)
    (hr : Reaches E b c) (h : IsOwed job ns b.journal) : IsOwed job ns c.journal := by
  induction hr with
  | refl => exact h
  | tail hc hs ih =>
    have hsound := hb.of_reaches hE hc
    exact ih.step hsound.told hsound.matched (hs.sharing hE hsound.orderly hsound.matched)

/-- At rest a batch that was open has been answered for the job that it waited for. -/
theorem exists_answered (hE : E.IsComplete) (hb : b.IsSound E headers name)
    (hr : Reaches E b c) (hrest : c.isResting = true) (h : IsOwed job ns b.journal) :
    ∃ whole r, .answered job whole r ∈ c.journal ∧ ns <+: whole ∧ job.IsAnsweredBy E headers r ∧
      ∀ m ∈ whole, c.HasOutcome E (job.operation.handle r) m := by
  have hc := hb.of_reaches hE hr
  cases h.of_reaches hE hb hr with
  | waiting hopen hns =>
    have hnone := hc.told.batch?_eq job.slot
    rw [batch?_of_isResting hc hrest, hopen] at hnone
    cases hnone
  | @answered whole r hmem hns =>
    refine ⟨whole, r, hmem, hns, hc.founded _ hmem, fun m hm => ?_⟩
    exact (hc.given _ hmem whole _ rfl m hm).hasOutcome hc.orderly hrest

/-- Whoever in the batch has an outcome has it from the answer to the job. -/
theorem exists_answered_of_finished {x : Attempt Outcome} (hE : E.IsComplete)
    (hb : b.IsSound E headers name) (hr : Reaches E b c) (h : IsOwed job ns b.journal)
    (hn : n ∈ ns) (hx : c.state? n = some (.finished x)) :
    ∃ whole r, .answered job whole r ∈ c.journal ∧ n ∈ whole ∧ job.IsAnsweredBy E headers r ∧
      x = job.operation.handle r := by
  have hc := hb.of_reaches hE hr
  cases h.of_reaches hE hb hr with
  | waiting hopen hns =>
    -- who is still in a batch cannot be finished
    have hbatch := hc.told.batch?_eq job.slot
    rw [hopen] at hbatch
    have hwaits := mem_waitingIn_of_batch? hbatch (hns.subset hn)
    obtain ⟨t, ht, hstate⟩ := hc.awaited.undone (List.mem_append_right _ hwaits)
    obtain ⟨u, hu, hfinished⟩ := state?_eq_some_iff.mp hx
    obtain rfl := Option.some.inj (ht.symm.trans hu)
    simp [hfinished] at hstate
  | @answered whole r hmem hns =>
    have hgiven := hc.given _ hmem whole _ rfl n (hns.subset hn)
    exact ⟨whole, r, hmem, hns.subset hn, hc.founded _ hmem, hgiven.eq_of_finished hx⟩

end IsOwed

namespace Backend

variable {E : Surroundings} {headers : List (Text × Text)} {name : Text} {b c : Backend}

/-! ## The batch that a call enters -/

theorem state?_of_settled {label : Text} {call : Call} {outcome : Attempt Outcome} {e : Backend}
    (h : call.admission = .settled outcome) (hissue : b.issue label call = (c, .ok n))
    (he : Reaches E c e) : e.state? n = some (.finished outcome) := by
  rw [issue_of_settled h] at hissue
  obtain ⟨rfl, hn⟩ := Prod.mk.inj hissue
  obtain rfl := Except.ok.inj hn
  exact he.state?_of_finished (state?_eq_some_iff.mpr
    ⟨_, getElem?_concat_eq_some_iff.mpr (.inr ⟨rfl, rfl⟩), rfl⟩)

theorem IsSound.exists_issue_of_joined (hb : b.IsSound E headers name) (label : Text) {call : Call}
    (h : call.admission = .dispatch job) {batch : List ℕ}
    (hbatch : b.batch? job.slot = some batch) :
    ∃ c first, b.issue label call = (c, .ok b.tickets.length) ∧ Reaches E b c ∧
      c.queue = b.queue ∧ c.batch? job.slot = some (batch ++ [b.tickets.length]) ∧
      first ∈ b.outstanding ∧ first.slot = job.slot ∧
      .registered b.tickets.length job .joined ∈ c.journal ∧
      IsOwed first (batch ++ [b.tickets.length]) c.journal := by
  obtain ⟨first, hopen⟩ := hb.told.exists_openBatch_eq hbatch
  obtain ⟨hmem, hslot⟩ := hb.told.outstanding hopen
  refine ⟨_, first, issue_of_dispatch label h (dispatch_of_joined label hbatch),
    .step (.joined label hbatch), rfl, ?_, hmem, hslot, ?_, ?_⟩
  · have hregistered := batch?_registeredFor_self job b.tickets.length b.registries
    rw [show (b.registries job.slot.1).batch? job.slot.2 = some batch from hbatch] at hregistered
    exact hregistered
  · simp [journal_enrol_of_joined label hbatch]
  · have hnew : openBatch first.slot (b.enrol label job).1.journal =
        some (first, batch ++ [b.tickets.length]) := by
      rw [journal_enrol_of_joined label hbatch, openBatch_concat, hslot, hopen]
      simp [Entry.openAfter]
    exact .waiting hnew List.prefix_rfl

theorem exists_issue_of_first (E : Surroundings) (label : Text) {call : Call}
    (h : call.admission = .dispatch job) (hbatch : b.batch? job.slot = none)
    (hq : b.queue.closed = false) :
    ∃ c, b.issue label call = (c, .ok b.tickets.length) ∧ Reaches E b c ∧
      IsOwed job [b.tickets.length] c.journal := by
  have hsubmit := WorkQueue.submit_of_open hq job
  refine ⟨_, issue_of_dispatch label h (dispatch_of_accepted label hbatch hsubmit),
    .step (.accepted label hbatch hsubmit), ?_⟩
  have hnew : openBatch job.slot ((b.enrol label job).1.journal ++ [.accepted job]) =
      some (job, [b.tickets.length]) := by
    simp [journal_enrol_of_first label hbatch, openBatch, Entry.openAfter]
  exact .waiting hnew List.prefix_rfl

end Backend

end SubscriptionClient
