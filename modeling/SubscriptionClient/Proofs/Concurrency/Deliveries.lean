import SubscriptionClient.Concurrency.Coalescer
import SubscriptionClient.Proofs.Concurrency.Batches
import SubscriptionClient.Proofs.Concurrency.Futures

/-!
# Deliveries to a batch

While an outcome is delivered to a batch, futures only take it, and registrations that follow them
are added. So in the end everyone in the batch is done, and whoever was pending has the outcome.
-/

namespace SubscriptionClient.Coalescer

variable {α : Type} {a : α} {c d e : Coalescer α} {label key : Text} {batch : List Text}

/-- Whoever waits is known, and no key is there twice. -/
structure IsSound (c : Coalescer α) : Prop where
  nodup_keys : c.registry.keys.Nodup
  known {label : Text} : label ∈ c.registry.waiting → ∃ w, c.waiter? label = some w

def registerAll (fs : List FollowUp) (r : Registry Text) : Registry Text :=
  fs.foldl (fun r f => (r.register f.key f.label).1) r

/-- What may change while an outcome is delivered. -/
structure Delivers (a : α) (c d : Coalescer α) : Prop where
  waiter {label : Text} {w : Waiter α} : c.waiter? label = some w →
    ∃ w', d.waiter? label = some w' ∧ w.future.state.Takes a w'.future.state
  registered : ∃ fs, d.registry = registerAll fs c.registry ∧
    d.followed.map Prod.fst = c.followed.map Prod.fst ++ fs.map FollowUp.label

namespace Delivers

theorem refl (a : α) (c : Coalescer α) : Delivers a c c where
  waiter := fun hw => ⟨_, hw, .same _⟩
  registered := ⟨[], rfl, (List.append_nil _).symm⟩

theorem trans (h : Delivers a c d) (h' : Delivers a d e) : Delivers a c e where
  waiter := by
    intro label w hw
    obtain ⟨w', hw', htakes⟩ := h.waiter hw
    obtain ⟨w'', hw'', htakes'⟩ := h'.waiter hw'
    exact ⟨w'', hw'', htakes.trans htakes'⟩
  registered := by
    obtain ⟨fs, hr, hf⟩ := h.registered
    obtain ⟨fs', hr', hf'⟩ := h'.registered
    refine ⟨fs ++ fs', ?_, ?_⟩
    · rw [hr', hr, registerAll, registerAll, registerAll, List.foldl_append]
    · rw [hf', hf, List.map_append, List.append_assoc]

end Delivers

/-! ## Waiters -/

theorem label_of_waiter? {w : Waiter α} (h : c.waiter? label = some w) : w.label = label := by
  simpa using List.find?_some h

theorem waiter?_setFuture (label other : Text) (future : Future α FollowUp) (c : Coalescer α) :
    (c.setFuture label future).waiter? other =
      (c.waiter? other).map fun w => if w.label = label then { w with future } else w := by
  have hlabel : (fun w : Waiter α => w.label == other) ∘
      (fun w => if w.label = label then { w with future } else w) = (·.label == other) := by
    funext w
    by_cases h : w.label = label <;> simp [h]
  rw [waiter?, setFuture, List.find?_map, hlabel, waiter?]

theorem delivers_setFuture {w : Waiter α} {future : Future α FollowUp}
    (hw : c.waiter? label = some w) (h : w.future.state.Takes a future.state) :
    Delivers a c (c.setFuture label future) where
  waiter := by
    intro other v hv
    rw [waiter?_setFuture, hv]
    by_cases hl : v.label = label
    · obtain rfl : label = other := hl.symm.trans (label_of_waiter? hv)
      obtain rfl := Option.some.inj (hw.symm.trans hv)
      exact ⟨{ w with future }, by simp [hl], h⟩
    · exact ⟨v, by simp [hl], .same _⟩
  registered := ⟨[], rfl, (List.append_nil _).symm⟩

theorem waiter?_setFuture_self {w : Waiter α} (hw : c.waiter? label = some w)
    (future : Future α FollowUp) :
    (c.setFuture label future).waiter? label = some { w with future } := by
  rw [waiter?_setFuture, hw]
  simp [label_of_waiter? hw]

/-- A registration adds one waiter at most and changes none, and is under the waiter's own key. -/
theorem exists_register_eq (label key : Text) (c : Coalescer α) :
    ∃ key' w, (c.register label key).1.registry = (c.registry.register key' label).1 ∧
      (c.register label key).1.waiter? label = some w ∧
      ∀ other v, c.waiter? other = some v → (c.register label key).1.waiter? other = some v := by
  unfold register
  split
  · rename_i w hw
    exact ⟨w.key, w, rfl, hw, fun _ _ hv => hv⟩
  · rename_i hnone
    refine ⟨key, ⟨label, key, .pending⟩, rfl, ?_, ?_⟩
    · have hnone' : c.waiters.find? (·.label == label) = none := hnone
      simp [waiter?, List.find?_append, hnone']
    · intro other v hv
      have hv' : c.waiters.find? (·.label == other) = some v := hv
      simp [waiter?, List.find?_append, hv']

theorem delivers_follow (a : α) (f : FollowUp) (c : Coalescer α) : Delivers a c (c.follow f) := by
  obtain ⟨key, w, hregistry, hw, hkept⟩ := exists_register_eq f.label f.key c
  refine ⟨fun hv => ⟨_, hkept _ _ hv, .same _⟩, [⟨f.label, key⟩], hregistry, ?_⟩
  have hfollowed : (c.register f.label f.key).1.followed = c.followed := by
    unfold register
    split <;> rfl
  simp [follow, hfollowed]

theorem delivers_followAll (a : α) (fs : List FollowUp) (c : Coalescer α) :
    Delivers a c (c.followAll fs) := by
  induction fs generalizing c with
  | nil => exact .refl a c
  | cons f fs ih => exact (delivers_follow a f c).trans (ih _)

/-! ## One after the other -/

/-- What a visit leaves: a future that refuses changes nothing. -/
def tryDeliver (a : α) (label : Text) (c : Coalescer α) : Coalescer α :=
  match c.deliver label a with
  | .ok next => next
  | .error _ => c

theorem visitAll_deliver_cons (a : α) (label : Text) (batch : List Text) (c : Coalescer α) :
    c.visitAll (fun label => deliver label a) (label :: batch) =
      (c.tryDeliver a label).visitAll (fun label => deliver label a) batch := rfl

theorem delivers_tryDeliver {w : Waiter α} (hw : c.waiter? label = some w) :
    Delivers a c (c.tryDeliver a label) ∧
      ∃ w', (c.tryDeliver a label).waiter? label = some w' ∧ w'.future.isDone = true := by
  cases hd : w.future.deliver? a with
  | none =>
    simp only [tryDeliver, deliver, hw, hd]
    exact ⟨.refl a c, w, rfl, Future.isDone_of_deliver?_eq_none hd⟩
  | some result =>
    obtain ⟨future, fs⟩ := result
    simp only [tryDeliver, deliver, hw, hd]
    have hset := delivers_setFuture hw (Future.takes_of_deliver? hd)
    have hfollow := delivers_followAll a fs (c.setFuture label future)
    obtain ⟨w', hw', htakes⟩ := hfollow.waiter (waiter?_setFuture_self hw future)
    exact ⟨hset.trans hfollow, w', hw', htakes.becomes.isDone (Future.isDone_of_deliver? hd)⟩

theorem delivers_visitAll (h : ∀ label ∈ batch, ∃ w, c.waiter? label = some w) :
    Delivers a c (c.visitAll (fun label => deliver label a) batch) ∧
      ∀ label ∈ batch, ∃ w,
        (c.visitAll (fun label => deliver label a) batch).waiter? label = some w ∧
          w.future.isDone = true := by
  induction batch generalizing c with
  | nil => exact ⟨.refl a c, nofun⟩
  | cons label batch ih =>
    -- the first is done from now on, and the others are still known
    obtain ⟨⟨w, hw⟩, hrest⟩ := List.forall_mem_cons.mp h
    obtain ⟨hfirst, w', hw', hdone⟩ := delivers_tryDeliver (a := a) hw
    have hknown : ∀ other ∈ batch, ∃ v, (c.tryDeliver a label).waiter? other = some v := by
      intro other hother
      obtain ⟨v, hv⟩ := hrest other hother
      obtain ⟨v', hv', -⟩ := hfirst.waiter hv
      exact ⟨v', hv'⟩
    obtain ⟨hdelivers, hall⟩ := ih hknown
    rw [visitAll_deliver_cons]
    refine ⟨hfirst.trans hdelivers, List.forall_mem_cons.mpr ⟨?_, hall⟩⟩
    obtain ⟨w'', hw'', htakes⟩ := hdelivers.waiter hw'
    exact ⟨w'', hw'', htakes.becomes.isDone hdone⟩

/-! ## Sound coalescers -/

theorem isSound_ofName (name : Text) : (ofName name : Coalescer α).IsSound :=
  ⟨List.nodup_nil, nofun⟩

theorem IsSound.register (h : c.IsSound) (label key : Text) : (c.register label key).1.IsSound := by
  obtain ⟨key', w, hregistry, hw, hkept⟩ := exists_register_eq label key c
  refine ⟨by rw [hregistry]; exact Registry.nodup_keys_register h.nodup_keys, ?_⟩
  intro other hother
  rw [hregistry, (Registry.waiting_register_perm key' label c.registry).mem_iff] at hother
  rcases List.mem_cons.mp hother with rfl | hother
  · exact ⟨w, hw⟩
  · obtain ⟨v, hv⟩ := h.known hother
    exact ⟨v, hkept other v hv⟩

theorem IsSound.setFuture (h : c.IsSound) (label : Text) (future : Future α FollowUp) :
    (c.setFuture label future).IsSound := by
  refine ⟨h.nodup_keys, fun hmem => ?_⟩
  obtain ⟨w, hw⟩ := h.known hmem
  rw [waiter?_setFuture, hw]
  exact ⟨_, rfl⟩

theorem IsSound.followAll (h : c.IsSound) (fs : List FollowUp) : (c.followAll fs).IsSound := by
  induction fs generalizing c with
  | nil => exact h
  | cons f fs ih =>
    have hregistered := h.register f.label f.key
    exact ih ⟨hregistered.nodup_keys, hregistered.known⟩

theorem IsSound.deliver (h : c.IsSound) (hd : c.deliver label a = .ok d) : d.IsSound := by
  unfold Coalescer.deliver at hd
  split at hd
  · split at hd
    · obtain rfl := Except.ok.inj hd
      exact (h.setFuture label _).followAll _
    · cases hd
  · cases hd

theorem IsSound.visitAll (h : c.IsSound)
    {visit : Text → Coalescer α → Except Fault (Coalescer α)}
    (hv : ∀ label c d, IsSound c → visit label c = .ok d → d.IsSound) (batch : List Text) :
    (c.visitAll visit batch).IsSound := by
  induction batch generalizing c with
  | nil => exact h
  | cons label batch ih =>
    rw [Coalescer.visitAll, List.foldl_cons]
    cases hd : visit label c with
    | ok d => exact ih (hv label c d h hd)
    | error fault => exact ih h

theorem IsSound.drained (h : c.IsSound) {registry : Registry Text}
    (hd : c.registry.drain? key = some (batch, registry)) :
    ({ c with registry } : Coalescer α).IsSound := by
  refine ⟨Registry.nodup_keys_of_drain? hd h.nodup_keys, fun hmem => h.known ?_⟩
  rw [(Registry.waiting_perm_of_drain? hd).mem_iff]
  exact List.mem_append_right _ hmem

theorem exists_of_drain (hd : c.drain key = .ok (batch, d)) :
    ∃ registry, c.registry.drain? key = some (batch, registry) ∧ d = { c with registry } := by
  unfold drain at hd
  split at hd
  · rename_i hdrain
    obtain ⟨rfl, rfl⟩ := Prod.mk.inj (Except.ok.inj hd)
    exact ⟨_, hdrain, rfl⟩
  · cases hd

theorem IsSound.perform (h : c.IsSound)
    {visit : Text → Coalescer α → Except Fault (Coalescer α)}
    (hv : ∀ label c d, IsSound c → visit label c = .ok d → d.IsSound)
    (hd : c.perform key visit = .ok (batch, d)) : d.IsSound := by
  unfold Coalescer.perform at hd
  cases hdrain : c.drain key with
  | error fault =>
    rw [hdrain] at hd
    cases hd
  | ok drained =>
    obtain ⟨registry, hregistry, hdrained⟩ := exists_of_drain hdrain
    rw [hdrain] at hd
    obtain ⟨rfl, rfl⟩ := Prod.mk.inj (Except.ok.inj hd)
    rw [hdrained]
    exact (h.drained hregistry).visitAll hv _

theorem IsSound.settle (h : c.IsSound) (hd : c.settle key a = .ok (batch, d)) : d.IsSound :=
  h.perform (fun _ _ _ => IsSound.deliver) hd

/-- A coalescer comes from another one by operations on it and on its futures. A visit to the members
of a batch may be any of these operations. -/
inductive Later : Coalescer α → Coalescer α → Prop where
  | refl (c : Coalescer α) : Later c c
  | trans {c d e : Coalescer α} (h : Later c d) (h' : Later d e) : Later c e
  | registered (c : Coalescer α) (label key : Text) : Later c (c.register label key).1
  | cancelled {c d : Coalescer α} {label : Text} {r : Bool} (h : c.cancel label = .ok (d, r)) :
    Later c d
  | delivered {c d : Coalescer α} {label : Text} {a : α} (h : c.deliver label a = .ok d) : Later c d
  | followed {c d : Coalescer α} {label : Text} {f : FollowUp} (h : c.onDone label f = .ok d) :
    Later c d
  | drained {c d : Coalescer α} {key : Text} {batch : List Text}
    (h : c.drain key = .ok (batch, d)) : Later c d
  | performed {c d : Coalescer α} {key : Text} {batch : List Text}
    {visit : Text → Coalescer α → Except Fault (Coalescer α)}
    (hv : ∀ label x y, visit label x = .ok y → Later x y)
    (h : c.perform key visit = .ok (batch, d)) : Later c d

theorem Later.isSound (h : Later c d) (hc : c.IsSound) : d.IsSound := by
  induction h with
  | refl => exact hc
  | trans _ _ ih ih' => exact ih' (ih hc)
  | registered c label key => exact hc.register label key
  | @cancelled c d label r hd =>
    unfold cancel at hd
    split at hd
    · obtain ⟨rfl, -⟩ := Prod.mk.inj (Except.ok.inj hd)
      exact (hc.setFuture label _).followAll _
    · cases hd
  | delivered hd => exact hc.deliver hd
  | @followed c d label f hd =>
    unfold onDone at hd
    split at hd
    · split at hd
      · obtain rfl := Except.ok.inj hd
        exact hc.setFuture label _
      · obtain rfl := Except.ok.inj hd
        exact hc.followAll [f]
    · cases hd
  | drained hd =>
    obtain ⟨registry, hdrain, rfl⟩ := exists_of_drain hd
    exact hc.drained hdrain
  | performed _ hd ih => exact hc.perform (fun label x y hx hy => ih label x y hy hx) hd

theorem IsSound.exists_settle_eq (h : c.IsSound) (hb : c.registry.batch? key = some batch)
    (a : α) :
    ∃ registry d, c.registry.drain? key = some (batch, registry) ∧
      c.settle key a = .ok (batch, d) ∧ Delivers a { c with registry } d ∧
      ∀ label ∈ batch, ∃ w, d.waiter? label = some w ∧ w.future.isDone = true := by
  have hdrain := Registry.drain?_eq_some_iff.mpr ⟨hb, rfl⟩
  have hknown : ∀ label ∈ batch, ∃ w, c.waiter? label = some w := fun _ hmem =>
    h.known (Registry.mem_waiting_of_batch? hb hmem)
  obtain ⟨hdelivers, hdone⟩ := delivers_visitAll (a := a)
    (c := { c with registry := ⟨Registry.removeIn key c.registry.entries⟩ }) hknown
  refine ⟨_, _, hdrain, ?_, hdelivers, hdone⟩
  rw [Coalescer.settle, Coalescer.perform, drain, hdrain]
  rfl

end SubscriptionClient.Coalescer
