import SubscriptionClient.Proofs.Backend.Journal
import SubscriptionClient.Proofs.Backend.Sources

/-!
# Delivery

What is released to a batch reaches everyone in it who is not cancelled first. The journal is kept
in step with the registries and the tickets, and each response in it answers the one request of its
job.
-/

namespace SubscriptionClient

namespace Backend

variable {E : Surroundings} {b c : Backend} {n : Nat} {t : Ticket} {job : Job}

/-! ## What is released is given -/

/-- Whether a future has an outcome, or is cancelled, or is about to be given the outcome. -/
def IsGiven (E : Surroundings) (outcome : Attempt Outcome) (b : Backend) (n : Nat) : Prop :=
  ∃ t, b.tickets[n]? = some t ∧
    (t.future.state = .finished outcome ∨ t.future.state.isCancelled = true ∧ E.cancels n ∨
      t.future.state = .pending ∧ ∃ ns, b.stage = .delivering outcome ns ∧ n ∈ ns)

variable {outcome : Attempt Outcome}

theorem IsGiven.of_append {u : Ticket} (h : IsGiven E outcome b n)
    (ht : c.tickets = b.tickets ++ [u]) (hs : c.stage = b.stage) : IsGiven E outcome c n := by
  obtain ⟨t, hn, hstate⟩ := h
  exact ⟨t, by rw [ht]; exact getElem?_concat_eq_some_iff.mpr (.inl hn), by rwa [hs]⟩

theorem getElem?_setFuture_of_ne {m : Nat} (h : m ≠ n)
    (future : Future (Attempt Outcome) Script) (b : Backend) :
    (b.setFuture m future).tickets[n]? = b.tickets[n]? :=
  List.getElem?_modify_ne _ _ h

theorem getElem?_setFuture_self (ht : b.tickets[n]? = some t)
    (future : Future (Attempt Outcome) Script) :
    (b.setFuture n future).tickets[n]? = some { t with future } := by
  simp [setFuture, ht]

theorem IsGiven.step (h : IsGiven E outcome b n) (hs : Step E b c) : IsGiven E outcome c n := by
  obtain ⟨t, ht, hstate⟩ := h
  obtain ⟨t', ht', -, hbecomes⟩ := hs.tickets.ticket ht
  rcases hstate with hfinished | ⟨hcancelled, hE⟩ | ⟨hp, ns, hstage, hn⟩
  · rw [hfinished] at hbecomes
    exact ⟨t', ht', .inl hbecomes.eq_of_finished⟩
  · have hdone : t.future.state.isDone = true := by
      cases h : t.future.state <;> simp_all [FutureState.isDone, FutureState.isCancelled]
    exact ⟨t', ht', .inr (.inl ⟨(hbecomes.isCancelled_eq hdone).trans hcancelled, hE⟩)⟩
  · have hwaits : IsGiven E outcome b n := ⟨t, ht, .inr (.inr ⟨hp, ns, hstage, hn⟩)⟩
    cases hs with
    | raised | closed | cleared | taken => exact hwaits
    | settled | joined | accepted | refused => exact hwaits.of_append rfl rfl
    | reported m =>
      obtain ⟨events, he⟩ := exists_noteDone_eq m b
      rw [he]
      exact hwaits
    | @followed m next c hf =>
      obtain ⟨u, future, hu, hfollow, rfl⟩ := exists_of_followedBy? hf
      by_cases hm : m = n
      · subst hm
        obtain rfl : u = t := Option.some.inj (hu.symm.trans ht)
        refine ⟨_, getElem?_setFuture_self ht future, .inr (.inr ⟨?_, ns, hstage, hn⟩)⟩
        exact (Future.state_of_followedBy? hfollow).trans hp
      · exact ⟨t, by rwa [getElem?_setFuture_of_ne hm], .inr (.inr ⟨hp, ns, hstage, hn⟩)⟩
    | @cancelled m u hu hc =>
      by_cases hm : m = n
      · subst hm
        obtain rfl : u = t := Option.some.inj (hu.symm.trans ht)
        refine ⟨_, getElem?_setFuture_self ht _, .inr (.inl ⟨?_, hc⟩)⟩
        simp [Future.cancel, hp, FutureState.isCancelled]
      · exact ⟨t, by rwa [getElem?_setFuture_of_ne hm], .inr (.inr ⟨hp, ns, hstage, hn⟩)⟩
    | sent hw hs | unsent hw hs | replied hw hs | abandoned hw hs => simp [hs] at hstage
    | @delivered job outcome' m ms u future scripts hw hs hu hd =>
      obtain ⟨rfl, rfl⟩ : outcome' = outcome ∧ m :: ms = ns := by simpa [hs] using hstage
      by_cases hm : m = n
      · subst hm
        obtain rfl : u = t := Option.some.inj (hu.symm.trans ht)
        rw [Future.deliver?_eq_finished hp, Option.some.injEq, Prod.mk.injEq] at hd
        refine ⟨_, getElem?_setFuture_self hu _, .inl ?_⟩
        rw [← hd.1]
      · have hms : n ∈ ms := (List.mem_cons.mp hn).resolve_left (Ne.symm hm)
        exact ⟨t, by rwa [getElem?_setFuture_of_ne hm], .inr (.inr ⟨hp, ms, rfl, hms⟩)⟩
    | @passedOver job outcome' m ms hw hs hd =>
      obtain ⟨rfl, rfl⟩ : outcome' = outcome ∧ m :: ms = ns := by simpa [hs] using hstage
      have hm : m ≠ n := by
        rintro rfl
        have hrefused := hd t ht
        simp [Future.deliver?_eq_finished hp] at hrefused
      have hms : n ∈ ms := (List.mem_cons.mp hn).resolve_left (Ne.symm hm)
      exact ⟨t, ht, .inr (.inr ⟨hp, ms, rfl, hms⟩)⟩
    | finished hw hs =>
      obtain ⟨-, rfl⟩ : _ ∧ [] = ns := by simpa [hs] using hstage
      simp at hn

/-- Everyone in a released batch is given what the batch is released with. -/
def HasGiven (E : Surroundings) (b : Backend) : Prop :=
  ∀ e ∈ b.journal, ∀ batch outcome, e.release? = some (batch, outcome) →
    ∀ n ∈ batch, IsGiven E outcome b n

theorem isGiven_answer {batch : List Nat} {registry : Registry Nat} {r : Response}
    (h : IsAwaited b.waiting b.tickets) (hc : CancelsAllowed E b)
    (hd : (b.registries job.operation.family).drain? job.key = some (batch, registry))
    (hn : n ∈ batch) : IsGiven E (job.operation.handle r) (b.answer job r) n := by
  have hb := (Registry.drain?_eq_some_iff.mp hd).1
  have hwaits : n ∈ b.waiting := by
    have hmem : n ∈ waitingIn b.registries :=
      mem_waitingIn_of_batch? (s := job.slot) hb hn
    exact List.mem_append_right _ hmem
  obtain ⟨t, ht, hstate⟩ := h.undone hwaits
  rw [answer_of_drain? hd]
  refine ⟨t, ht, ?_⟩
  rcases hstate with hstate | hstate
  · exact .inr (.inr ⟨hstate, batch, rfl, hn⟩)
  · have hcancelled : t.future.state.isCancelled = true := by rw [hstate]; rfl
    exact .inr (.inl ⟨hcancelled, hc n t ht hcancelled⟩)

/-- A release that a step adds to the journal is given at once. -/
theorem Adds.isGiven {e : Entry} {batch : List Nat} (ha : IsAwaited b.waiting b.tickets)
    (hc : CancelsAllowed E b) (h : Adds E b c e) (hr : e.release? = some (batch, outcome))
    (hn : n ∈ batch) : IsGiven E outcome c n := by
  cases h with
  | registered | accepted => simp [Entry.release?] at hr
  | refused =>
    simp only [Entry.release?, Option.some.injEq, Prod.mk.injEq] at hr
    obtain ⟨rfl, rfl⟩ := hr
    obtain rfl := List.mem_singleton.mp hn
    exact ⟨_, getElem?_concat_eq_some_iff.mpr (.inr ⟨rfl, rfl⟩), .inl rfl⟩
  | answered hd =>
    simp only [Entry.release?, Option.some.injEq, Prod.mk.injEq] at hr
    obtain ⟨rfl, rfl⟩ := hr
    exact isGiven_answer ha hc hd hn

theorem HasGiven.step (hE : E.IsComplete) (hm : IsMatched b.registries b.outstanding)
    (hq : IsRequested b.headers b) (ha : IsAwaited b.waiting b.tickets) (hc : CancelsAllowed E b)
    (h : HasGiven E b) (hs : Step E b c) : HasGiven E c := by
  intro e he batch outcome hr n hn
  rcases hs.adds hE hm hq he with hold | hnew
  · exact (h e hold batch outcome hr n hn).step hs
  · exact hnew.isGiven ha hc hr hn

end Backend

end SubscriptionClient
