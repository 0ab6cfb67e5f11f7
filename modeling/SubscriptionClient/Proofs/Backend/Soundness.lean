import SubscriptionClient.Proofs.Backend.Delivery
import SubscriptionClient.Proofs.Request.Admission

/-!
# Sound backends

The invariants of all states that a backend can come to, and what follows from them: there is one
request for each key in flight, nobody is given anything but the outcome of that request, and nobody
waits for ever.
-/

namespace SubscriptionClient.Backend

variable {E : Surroundings} {headers : List (Text × Text)} {clearable : Bool} {name : Text}
  {b c : Backend} {n : Nat}

/-- Only misused calls raise, and the worker never stops half-way. -/
structure IsUntroubled (b : Backend) : Prop where
  raised {label : Text} {c : Call} {fault : Fault} :
    .raised label c fault ∈ b.events → fault.IsMisuse
  escaped : b.escaped = []

structure IsSound (E : Surroundings) (headers : List (Text × Text)) (name : Text) (b : Backend) :
    Prop where
  headers_eq : b.headers = headers
  name_eq : b.queue.name = name
  orderly : b.IsOrderly
  matched : IsMatched b.registries b.outstanding
  told : IsTold b.registries b.outstanding b.journal
  awaited : IsAwaited b.waiting b.tickets
  cancels : CancelsAllowed E b
  given : HasGiven E b
  enrolled : b.enrolled = b.journal.filterMap Entry.registered?
  requested : IsRequested headers b
  founded : ∀ e ∈ b.journal, e.IsFounded E headers name
  untroubled : b.IsUntroubled

theorem IsUntroubled.note {e : Event} (h : b.IsUntroubled)
    (he : ∀ label c fault, e = .raised label c fault → fault.IsMisuse) :
    (b.note e).IsUntroubled where
  raised := by
    intro label c fault hmem
    rcases List.mem_append.mp hmem with hmem | hmem
    · exact h.raised hmem
    · exact he label c fault (List.mem_singleton.mp hmem).symm
  escaped := h.escaped

theorem IsUntroubled.step (hE : E.IsComplete) (hm : IsMatched b.registries b.outstanding)
    (h : b.IsUntroubled) (hs : Step E b c) : c.IsUntroubled := by
  cases hs with
  | raised hc =>
    apply h.note
    rintro label c fault he
    obtain ⟨-, rfl, rfl⟩ := Event.raised.inj he
    exact Call.isMisuse_of_admission hc
  | followed hf =>
    obtain ⟨t, future, -, -, rfl⟩ := exists_of_followedBy? hf
    exact ⟨h.raised, h.escaped⟩
  | reported m =>
    unfold noteDone
    split
    · exact h.note (by simp)
    · exact h
  | cleared => exact h.note (by simp)
  | sent => exact ⟨(h.note (by simp)).raised, h.escaped⟩
  | unsent hw hs | replied hw hs =>
    obtain ⟨batch, registry, hd⟩ := hm.exists_drain?_of_busy hw (by simp [hs])
    rw [answer_of_drain? hd]
    exact ⟨h.raised, h.escaped⟩
  | abandoned hw hs hr hf =>
    obtain ⟨r, hr'⟩ := hE _ _ hr
    simp [hr'] at hf
  | _ => exact ⟨h.raised, h.escaped⟩

theorem isSound_start (E : Surroundings) (headers : List (Text × Text)) (clearable : Bool)
    (name : Text) : (start headers clearable name).IsSound E headers name where
  headers_eq := rfl
  name_eq := rfl
  orderly := isOrderly_start headers clearable name
  matched := isMatched_start headers clearable name
  told := isTold_start headers clearable name
  awaited := isAwaited_start headers clearable name
  cancels := cancelsAllowed_start headers clearable name
  given := by simp [HasGiven, start]
  enrolled := rfl
  requested := ⟨nofun, rfl⟩
  founded := by simp [start]
  untroubled := ⟨by simp [start], rfl⟩

theorem IsSound.step (hE : E.IsComplete) (h : b.IsSound E headers name) (hs : Step E b c) :
    c.IsSound E headers name := by
  have hsharing := hs.sharing hE h.orderly h.matched
  obtain rfl := h.headers_eq
  obtain rfl := h.name_eq
  exact
    { headers_eq := hs.headers_eq
      name_eq := hs.name_eq
      orderly := h.orderly.step hs
      matched := h.matched.step hsharing
      told := h.told.step h.matched hsharing
      awaited := h.awaited.step hE h.matched hs
      cancels := h.cancels.step hs
      given := h.given.step hE h.matched h.requested h.awaited h.cancels hs
      enrolled := hs.enrolled_eq h.matched h.enrolled
      requested := h.requested.step hE h.orderly h.matched hs
      founded := fun e he => (hs.adds hE h.matched h.requested he).elim (h.founded e) Adds.isFounded
      untroubled := h.untroubled.step hE h.matched hs }

theorem IsSound.of_reaches (hE : E.IsComplete) (h : b.IsSound E headers name)
    (hr : Reaches E b c) : c.IsSound E headers name := by
  induction hr with
  | refl => exact h
  | tail _ hs ih => exact ih.step hE hs

theorem isSound_of_reaches (hE : E.IsComplete)
    (h : Reaches E (start headers clearable name) b) : b.IsSound E headers name :=
  (isSound_start E headers clearable name).of_reaches hE h

end SubscriptionClient.Backend
