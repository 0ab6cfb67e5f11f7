import SubscriptionClient.Concurrency.Future

/-!
# What becomes of futures

A future that is done stays as it is, apart from the notice of its cancellation, and what follows it
was registered before.
-/

namespace SubscriptionClient

namespace FutureState

variable {α : Type} {s t u : FutureState α}

/-- How the state of a future may change. Noticing a cancellation leaves it cancelled. -/
inductive Becomes : FutureState α → FutureState α → Prop where
  | same (s : FutureState α) : Becomes s s
  | settled (s : FutureState α) : Becomes pending s
  | noticed : Becomes cancelled cancelNoticed

theorem Becomes.trans (h : s.Becomes t) (h' : t.Becomes u) : s.Becomes u := by
  cases h with
  | same => exact h'
  | settled => exact .settled u
  | noticed =>
    cases h'
    exact .noticed

theorem Becomes.isDone (h : s.Becomes t) (hs : s.isDone = true) : t.isDone = true := by
  cases h with
  | same => exact hs
  | settled => simp [FutureState.isDone] at hs
  | noticed => rfl

theorem Becomes.isCancelled_eq (h : s.Becomes t) (hs : s.isDone = true) :
    t.isCancelled = s.isCancelled := by
  cases h with
  | same | noticed => rfl
  | settled => simp [FutureState.isDone] at hs

theorem Becomes.outcome?_eq (h : s.Becomes t) (hs : s.isDone = true) :
    t.outcome? = s.outcome? := by
  cases h with
  | same | noticed => rfl
  | settled => simp [FutureState.isDone] at hs

theorem Becomes.eq_of_finished {a : α} (h : (finished a).Becomes t) : t = finished a := by
  cases h
  rfl

/-- How the state of a future may change while one outcome is delivered. -/
inductive Takes (a : α) : FutureState α → FutureState α → Prop where
  | same (s : FutureState α) : Takes a s s
  | finished : Takes a pending (finished a)
  | noticed : Takes a cancelled cancelNoticed

variable {a : α}

theorem Takes.trans (h : s.Takes a t) (h' : t.Takes a u) : s.Takes a u := by
  cases h with
  | same => exact h'
  | finished =>
    cases h'
    exact .finished
  | noticed =>
    cases h'
    exact .noticed

theorem Takes.becomes (h : s.Takes a t) : s.Becomes t := by
  cases h with
  | same => exact .same _
  | finished => exact .settled _
  | noticed => exact .noticed

theorem Takes.eq_finished (h : pending.Takes a t) (ht : t.isDone = true) :
    t = FutureState.finished a := by
  cases h with
  | same => simp [FutureState.isDone] at ht
  | finished => rfl

end FutureState

namespace Future

variable {α κ : Type} {f g : Future α κ} {k k' : κ}

theorem becomes_cancel (f : Future α κ) : f.state.Becomes f.cancel.1.state := by
  obtain ⟨state, followers⟩ := f
  cases state with
  | pending => exact .settled _
  | cancelled | cancelNoticed | finished => exact .same _

theorem state_of_followedBy? (h : f.followedBy? k = some g) : g.state = f.state := by
  unfold followedBy? at h
  split at h
  · simp at h
  · rw [← Option.some.inj h]

theorem state_cancel (f : Future α κ) :
    f.cancel.1.state = f.state ∨ f.state = .pending ∧ f.cancel.1.state = .cancelled := by
  obtain ⟨state, followers⟩ := f
  cases state with
  | pending => exact .inr ⟨rfl, rfl⟩
  | cancelled | cancelNoticed | finished => exact .inl rfl

theorem state_ne_pending_of_deliver? {a : α} {ks : List κ} (h : f.deliver? a = some (g, ks)) :
    g.state ≠ .pending := by
  obtain ⟨state, followers⟩ := f
  cases state with
  | pending | cancelled =>
    simp only [deliver?, Option.some.injEq, Prod.mk.injEq] at h
    simp [← h.1]
  | cancelNoticed | finished => simp [deliver?] at h

theorem isCancelled_of_deliver? {a : α} {ks : List κ} (h : f.deliver? a = some (g, ks)) :
    g.state.isCancelled = f.state.isCancelled := by
  obtain ⟨state, followers⟩ := f
  cases state with
  | pending | cancelled =>
    simp only [deliver?, Option.some.injEq, Prod.mk.injEq] at h
    rw [← h.1]
    rfl
  | cancelNoticed | finished => simp [deliver?] at h

theorem takes_of_deliver? {a : α} {ks : List κ} (h : f.deliver? a = some (g, ks)) :
    f.state.Takes a g.state := by
  obtain ⟨state, followers⟩ := f
  cases state with
  | pending | cancelled =>
    simp only [deliver?, Option.some.injEq, Prod.mk.injEq] at h
    rw [← h.1]
    constructor
  | cancelNoticed | finished => simp [deliver?] at h

theorem becomes_of_deliver? {a : α} {ks : List κ} (h : f.deliver? a = some (g, ks)) :
    f.state.Becomes g.state :=
  (takes_of_deliver? h).becomes

theorem isDone_of_deliver? {a : α} {ks : List κ} (h : f.deliver? a = some (g, ks)) :
    g.isDone = true := by
  have hne := state_ne_pending_of_deliver? h
  unfold isDone
  cases hs : g.state with
  | pending => exact (hne hs).elim
  | cancelled | cancelNoticed | finished => rfl

theorem isDone_of_deliver?_eq_none {a : α} (h : f.deliver? a = none) : f.isDone = true := by
  obtain ⟨state, followers⟩ := f
  cases state with
  | pending | cancelled => simp [deliver?] at h
  | cancelNoticed | finished => rfl

/-! ## What follows -/

theorem mem_followers_of_cancel (h : k ∈ f.cancel.1.followers ∨ k ∈ f.cancel.2) :
    k ∈ f.followers := by
  obtain ⟨state, followers⟩ := f
  cases state <;> simpa [cancel] using h

theorem mem_followers_of_deliver? {a : α} {ks : List κ} (h : f.deliver? a = some (g, ks))
    (hk : k ∈ g.followers ∨ k ∈ ks) : k ∈ f.followers := by
  obtain ⟨state, followers⟩ := f
  cases state with
  | pending | cancelled =>
    simp only [deliver?, Option.some.injEq, Prod.mk.injEq] at h
    obtain ⟨rfl, rfl⟩ := h
    simpa using hk
  | cancelNoticed | finished => simp [deliver?] at h

theorem mem_followers_of_followedBy? (h : f.followedBy? k = some g) (hk : k' ∈ g.followers) :
    k' ∈ f.followers ∨ k' = k := by
  unfold followedBy? at h
  split at h
  · cases h
  · obtain rfl := Option.some.inj h
    simpa using hk

end Future

end SubscriptionClient
