import SubscriptionClient.Proofs.Backend.Tickets

/-!
# Who waits

Those wait who are in a batch of some registry or in the part of a batch that the worker has not
delivered to yet. The invariant says that nobody waits twice, that a future which is not done is
waited for, and that whoever waits can still be delivered to.
-/

namespace SubscriptionClient.Backend

variable {E : Surroundings} {b c : Backend} {n : Nat} {t : Ticket}

/-- Those that the worker still has to deliver to. -/
def undelivered (b : Backend) : List Nat :=
  match b.stage with
  | .delivering _ ns => ns
  | _ => []

/-- All who wait in some registry. -/
def waitingIn (registries : Family → Registry Nat) : List Nat :=
  Family.all.flatMap fun f => (registries f).waiting

def waiting (b : Backend) : List Nat := b.undelivered ++ waitingIn b.registries

/-! ## Registries -/

/-- A change in one part of a list of parts. -/
theorem flatMap_perm_append_flatMap {α β : Type} [DecidableEq α] {f : α} {l : List α}
    (hn : l.Nodup) (hf : f ∈ l) {g g' : α → List β} (more : List β)
    (hg : (g' f).Perm (more ++ g f)) (hne : ∀ x, x ≠ f → g' x = g x) :
    (l.flatMap g').Perm (more ++ l.flatMap g) := by
  have hl := List.perm_cons_erase hf
  have hrest : (l.erase f).flatMap g' = (l.erase f).flatMap g := by
    apply List.flatMap_congr
    intro x hx
    apply hne
    rintro rfl
    exact hn.not_mem_erase hx
  calc List.Perm (l.flatMap g') ((f :: l.erase f).flatMap g') := hl.flatMap_right g'
    _ = g' f ++ (l.erase f).flatMap g := by rw [List.flatMap_cons, hrest]
    List.Perm _ ((more ++ g f) ++ (l.erase f).flatMap g) := hg.append_right _
    _ = more ++ (f :: l.erase f).flatMap g := by rw [List.flatMap_cons, List.append_assoc]
    List.Perm _ (more ++ l.flatMap g) := (hl.flatMap_right g).symm.append_left more

variable {registries : Family → Registry Nat} {job : Job} {batch : List Nat}
  {registry : Registry Nat}

theorem waitingIn_registeredFor_perm (job : Job) (n : Nat) (registries : Family → Registry Nat) :
    (waitingIn (registeredFor job n registries)).Perm (n :: waitingIn registries) := by
  refine flatMap_perm_append_flatMap Family.nodup_all (Family.mem_all job.operation.family) [n]
    ?_ ?_
  · simpa [registeredFor] using Registry.waiting_register_perm job.key n _
  · intro f hf
    simp [registeredFor, hf]

theorem waitingIn_perm_of_drain?
    (hd : (registries job.operation.family).drain? job.key = some (batch, registry)) :
    (waitingIn registries).Perm (batch ++ waitingIn (drainedOf job registry registries)) := by
  refine flatMap_perm_append_flatMap Family.nodup_all (Family.mem_all job.operation.family) batch
    ?_ ?_
  · simpa [drainedOf] using Registry.waiting_perm_of_drain? hd
  · intro f hf
    simp [drainedOf, hf]

theorem mem_waitingIn_of_batch? {s : Slot} (hb : (registries s.1).batch? s.2 = some batch)
    (hn : n ∈ batch) : n ∈ waitingIn registries :=
  List.mem_flatMap.mpr ⟨s.1, Family.mem_all s.1, Registry.mem_waiting_of_batch? hb hn⟩

theorem waitingIn_eq_nil (h : ∀ s : Slot, (registries s.1).batch? s.2 = none) (f : Family) :
    (registries f).entries = [] := by
  apply List.eq_nil_iff_forall_not_mem.mpr
  intro e he
  have hk : e.1 ∈ (registries f).keys := List.mem_map.mpr ⟨e, he, rfl⟩
  exact Registry.batch?_eq_none_iff.mp (h (f, e.1)) hk

/-! ## Futures that are waited for -/

structure IsAwaited (waiting : List Nat) (tickets : List Ticket) : Prop where
  nodup : waiting.Nodup
  undone {n : Nat} : n ∈ waiting →
    ∃ t, tickets[n]? = some t ∧ (t.future.state = .pending ∨ t.future.state = .cancelled)
  pending {n : Nat} {t : Ticket} :
    tickets[n]? = some t → t.future.state = .pending → n ∈ waiting

namespace IsAwaited

variable {waiting waiting' : List Nat} {tickets : List Ticket}

theorem perm (h : IsAwaited waiting tickets) (hp : waiting.Perm waiting') :
    IsAwaited waiting' tickets where
  nodup := hp.nodup_iff.mp h.nodup
  undone := fun hn => h.undone (hp.mem_iff.mpr hn)
  pending := fun ht hs => hp.mem_iff.mp (h.pending ht hs)

theorem lt_length (h : IsAwaited waiting tickets) (hn : n ∈ waiting) : n < tickets.length := by
  obtain ⟨t, ht, -⟩ := h.undone hn
  exact (List.getElem?_eq_some_iff.mp ht).1

theorem handOut_done (h : IsAwaited waiting tickets) (ht : t.future.state.isDone = true) :
    IsAwaited waiting (tickets ++ [t]) where
  nodup := h.nodup
  undone := by
    intro n hn
    obtain ⟨u, hu, hs⟩ := h.undone hn
    exact ⟨u, getElem?_concat_eq_some_iff.mpr (.inl hu), hs⟩
  pending := by
    intro n u hu hs
    rcases getElem?_concat_eq_some_iff.mp hu with hu | ⟨-, rfl⟩
    · exact h.pending hu hs
    · simp [hs, FutureState.isDone] at ht

theorem handOut_pending (h : IsAwaited waiting tickets) (ht : t.future.state = .pending) :
    IsAwaited (tickets.length :: waiting) (tickets ++ [t]) where
  nodup := List.nodup_cons.mpr ⟨fun hn => absurd (h.lt_length hn) (Nat.lt_irrefl _), h.nodup⟩
  undone := by
    intro n hn
    rcases List.mem_cons.mp hn with rfl | hn
    · exact ⟨t, by simp, .inl ht⟩
    · obtain ⟨u, hu, hs⟩ := h.undone hn
      exact ⟨u, getElem?_concat_eq_some_iff.mpr (.inl hu), hs⟩
  pending := by
    intro n u hu hs
    rcases getElem?_concat_eq_some_iff.mp hu with hu | ⟨rfl, -⟩
    · exact List.mem_cons_of_mem _ (h.pending hu hs)
    · exact List.mem_cons_self

theorem modify {n : Nat} {t : Ticket} {future : Future (Attempt Outcome) Script}
    (h : IsAwaited waiting tickets) (ht : tickets[n]? = some t)
    (hf : future.state = t.future.state ∨
      t.future.state = .pending ∧ future.state = .cancelled) :
    IsAwaited waiting (tickets.modify n fun t => { t with future }) where
  nodup := h.nodup
  undone := by
    intro m hm
    obtain ⟨u, hu, hs⟩ := h.undone hm
    by_cases hnm : n = m
    · subst hnm
      obtain rfl : t = u := Option.some.inj (ht.symm.trans hu)
      refine ⟨{ t with future }, by simp [ht], ?_⟩
      rcases hf with hf | ⟨-, hf⟩
      · rwa [hf]
      · exact .inr hf
    · exact ⟨u, by rwa [List.getElem?_modify_ne _ _ hnm], hs⟩
  pending := by
    intro m u hu hs
    by_cases hnm : n = m
    · subst hnm
      simp only [List.getElem?_modify_eq, ht, Option.map_eq_map, Option.map_some,
        Option.some.injEq] at hu
      subst hu
      rcases hf with hf | ⟨-, hf⟩
      · exact h.pending ht (hf.symm.trans hs)
      · simp [hf] at hs
    · rw [List.getElem?_modify_ne _ _ hnm] at hu
      exact h.pending hu hs

theorem deliver {n : Nat} {future : Future (Attempt Outcome) Script}
    (h : IsAwaited (n :: waiting) tickets) (hf : future.state ≠ .pending) :
    IsAwaited waiting (tickets.modify n fun t => { t with future }) where
  nodup := (List.nodup_cons.mp h.nodup).2
  undone := by
    intro m hm
    have hnm : n ≠ m := by
      rintro rfl
      exact (List.nodup_cons.mp h.nodup).1 hm
    rw [List.getElem?_modify_ne _ _ hnm]
    exact h.undone (List.mem_cons_of_mem n hm)
  pending := by
    intro m u hu hs
    by_cases hnm : n = m
    · subst hnm
      simp only [List.getElem?_modify_eq, Option.map_eq_map, Option.map_eq_some_iff] at hu
      obtain ⟨t, -, rfl⟩ := hu
      exact absurd hs hf
    · rw [List.getElem?_modify_ne _ _ hnm] at hu
      exact (List.mem_cons.mp (h.pending hu hs)).resolve_left (Ne.symm hnm)

end IsAwaited

/-! ## The invariant -/

theorem undelivered_of_not_delivering (hs : ∀ outcome ns, b.stage ≠ .delivering outcome ns) :
    b.undelivered = [] := by
  cases h : b.stage with
  | delivering outcome ns => exact (hs outcome ns h).elim
  | fresh | awaiting => simp [undelivered, h]

theorem isAwaited_start (headers : List (Text × Text)) (clearable : Bool) (name : Text) :
    IsAwaited (start headers clearable name).waiting (start headers clearable name).tickets where
  nodup := List.nodup_nil
  undone := nofun
  pending := by simp [start]

theorem isAwaited_enrol (h : IsAwaited b.waiting b.tickets) (label : Text) (job : Job) :
    IsAwaited (b.enrol label job).1.waiting (b.enrol label job).1.tickets := by
  have hnew := h.handOut_pending (t := ⟨label, some job.key, .pending⟩) rfl
  apply hnew.perm
  have hreg := waitingIn_registeredFor_perm job b.tickets.length b.registries
  exact List.perm_middle.symm.trans (hreg.symm.append_left b.undelivered)

theorem isAwaited_answer {r : Response} (h : IsAwaited b.waiting b.tickets)
    (hs : ∀ outcome ns, b.stage ≠ .delivering outcome ns)
    (hd : (b.registries job.operation.family).drain? job.key = some (batch, registry)) :
    IsAwaited (b.answer job r).waiting (b.answer job r).tickets := by
  rw [answer_of_drain? hd]
  apply h.perm
  rw [waiting, undelivered_of_not_delivering hs]
  exact waitingIn_perm_of_drain? hd

theorem deliver?_ne_none {t : Ticket} (outcome : Attempt Outcome)
    (ht : t.future.state = .pending ∨ t.future.state = .cancelled) :
    t.future.deliver? outcome ≠ none := by
  rcases ht with ht | ht <;> simp [Future.deliver?, ht]

theorem IsAwaited.step (hE : E.IsComplete) (hm : IsMatched b.registries b.outstanding)
    (h : IsAwaited b.waiting b.tickets) (hs : Step E b c) : IsAwaited c.waiting c.tickets := by
  cases hs with
  | raised | closed | cleared | taken => exact h
  | settled | refused => exact h.handOut_done rfl
  | joined label hb | accepted label hb hq => exact isAwaited_enrol h label _
  | followed hf =>
    obtain ⟨t, future, ht, hs, rfl⟩ := exists_of_followedBy? hf
    exact h.modify ht (.inl (Future.state_of_followedBy? hs))
  | reported n =>
    obtain ⟨events, he⟩ := exists_noteDone_eq n b
    rw [he]
    exact h
  | cancelled ht hc => exact h.modify ht (Future.state_cancel _)
  | sent hw hs =>
    rw [waiting, undelivered_of_not_delivering (by simp [hs])] at h
    exact h
  | unsent hw hs | replied hw hs =>
    obtain ⟨batch, registry, hd⟩ := hm.exists_drain?_of_busy hw (by simp [hs])
    exact isAwaited_answer h (by simp [hs]) hd
  | abandoned hw hs hr hf =>
    obtain ⟨r, hr'⟩ := hE _ _ hr
    simp [hr'] at hf
  | delivered hw hs ht hd =>
    rw [waiting, undelivered, hs] at h
    exact h.deliver (Future.state_ne_pending_of_deliver? hd)
  | @passedOver job outcome n ns hw hs hd =>
    rw [waiting, undelivered, hs] at h
    obtain ⟨t, ht, hstate⟩ := h.undone List.mem_cons_self
    exact (deliver?_ne_none outcome hstate (hd t ht)).elim
  | finished hw hs =>
    rw [waiting, undelivered, hs] at h
    exact h

end SubscriptionClient.Backend
