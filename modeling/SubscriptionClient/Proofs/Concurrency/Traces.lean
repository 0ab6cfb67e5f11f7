import SubscriptionClient.Proofs.Concurrency.Deliveries
import SubscriptionClient.Proofs.Concurrency.Logs

/-!
# Traces of a coalescer

Every operation on a coalescer leaves a trace of registry events. Whatever is done, registrations in
the middle of a delivery included, the removed batches of a key and those who still wait under it are
together the ones added under it, in order.
-/

namespace SubscriptionClient.Coalescer

variable {α : Type} {a : α} {c d e : Coalescer α} {label key : Text} {batch : List Text}
  {log log' events : List RegistryEvent} {fault : Fault} {P : RegistryEvent → Prop}

/-- The key under which a registration takes place. -/
def ownKey (label key : Text) (c : Coalescer α) : Text :=
  match c.waiter? label with
  | some w => w.key
  | none => key

/-- A single change of a coalescer, and what happens in its registry. -/
inductive Changes (c : Coalescer α) : List RegistryEvent → Coalescer α → Prop where
  | added (label key : Text) : Changes c
    [.added (c.ownKey label key) label (c.register label key).2] (c.register label key).1
  | removed {key : Text} {batch : List Text} {d : Coalescer α} (h : c.drain key = .ok (batch, d)) :
    Changes c [.removed key batch] d
  | missed {key : Text} {fault : Fault} (h : c.drain key = .error fault) :
    Changes c [.missed key] c
  | future (label : Text) (future : Future α FollowUp) : Changes c [] (c.setFuture label future)
  | noted (followed : List (Text × Registration)) : Changes c [] { c with followed }

/-- A coalescer comes from another one, and what happens on the way. -/
inductive Traces (c : Coalescer α) : List RegistryEvent → Coalescer α → Prop where
  | nothing : Traces c [] c
  | change {log events : List RegistryEvent} {d e : Coalescer α} (h : Traces c log d)
    (hc : Changes d events e) : Traces c (log ++ events) e

theorem Changes.traces (h : Changes c events d) : Traces c events d := Traces.nothing.change h

theorem Traces.trans (h : Traces c log d) (h' : Traces d log' e) : Traces c (log ++ log') e := by
  induction h' with
  | nothing =>
    rw [List.append_nil]
    exact h
  | change _ hc ih =>
    rw [← List.append_assoc]
    exact ih.change hc

/-! ## What operations do -/

/-- A coalescer comes from another one by events of some kind. -/
def LeadsTo (P : RegistryEvent → Prop) (c d : Coalescer α) : Prop :=
  ∃ log, Traces c log d ∧ ∀ e ∈ log, P e

/-- A removal takes out the batch of the key before anything else happens. Without a batch it fails,
and nothing changes. -/
def Removes (P : RegistryEvent → Prop) (key : Text) (c : Coalescer α) :
    Except Fault (List Text × Coalescer α) → Prop
  | .ok (batch, d) => c.registry.batch? key = some batch ∧
    ∃ log, Traces c (.removed key batch :: log) d ∧ ∀ e ∈ log, P e
  | .error fault => c.registry.batch? key = none ∧ fault = .nothingWaiting c.name key ∧
    Traces c [.missed key] c

theorem LeadsTo.refl (P : RegistryEvent → Prop) (c : Coalescer α) : LeadsTo P c c :=
  ⟨[], .nothing, nofun⟩

theorem LeadsTo.trans (h : LeadsTo P c d) (h' : LeadsTo P d e) : LeadsTo P c e := by
  obtain ⟨log, htraces, hlog⟩ := h
  obtain ⟨log', htraces', hlog'⟩ := h'
  exact ⟨log ++ log', htraces.trans htraces', List.forall_mem_append.mpr ⟨hlog, hlog'⟩⟩

theorem leadsTo_follow (f : FollowUp) (c : Coalescer α) :
    LeadsTo RegistryEvent.IsAddition c (c.follow f) := by
  refine ⟨_, (Changes.added f.label f.key).traces.change (.noted _), ?_⟩
  simp [RegistryEvent.IsAddition]

theorem leadsTo_followAll (fs : List FollowUp) (c : Coalescer α) :
    LeadsTo RegistryEvent.IsAddition c (c.followAll fs) := by
  induction fs generalizing c with
  | nil => exact .refl _ c
  | cons f fs ih => exact (leadsTo_follow f c).trans (ih _)

theorem leadsTo_settled (label : Text) (future : Future α FollowUp) (fs : List FollowUp)
    (c : Coalescer α) :
    LeadsTo RegistryEvent.IsAddition c ((c.setFuture label future).followAll fs) := by
  have hset : LeadsTo RegistryEvent.IsAddition c (c.setFuture label future) :=
    ⟨[], (Changes.future label future).traces, nofun⟩
  exact hset.trans (leadsTo_followAll fs _)

theorem leadsTo_deliver (h : c.deliver label a = .ok d) :
    LeadsTo RegistryEvent.IsAddition c d := by
  unfold deliver at h
  split at h
  · split at h
    · obtain rfl := Except.ok.inj h
      apply leadsTo_settled
    · cases h
  · cases h

theorem leadsTo_cancel {r : Bool} (h : c.cancel label = .ok (d, r)) :
    LeadsTo RegistryEvent.IsAddition c d := by
  unfold cancel at h
  split at h
  · obtain ⟨rfl, -⟩ := Prod.mk.inj (Except.ok.inj h)
    apply leadsTo_settled
  · cases h

theorem leadsTo_onDone {f : FollowUp} (h : c.onDone label f = .ok d) :
    LeadsTo RegistryEvent.IsAddition c d := by
  unfold onDone at h
  split at h
  · split at h
    · obtain rfl := Except.ok.inj h
      exact ⟨[], (Changes.future label _).traces, nofun⟩
    · obtain rfl := Except.ok.inj h
      apply leadsTo_follow
  · cases h

theorem leadsTo_visitAll {visit : Text → Coalescer α → Except Fault (Coalescer α)}
    (hv : ∀ label c d, visit label c = .ok d → LeadsTo P c d) (batch : List Text)
    (c : Coalescer α) : LeadsTo P c (c.visitAll visit batch) := by
  induction batch generalizing c with
  | nil => exact .refl P c
  | cons label batch ih =>
    rw [visitAll, List.foldl_cons]
    cases hvisit : visit label c with
    | ok d => exact (hv label c d hvisit).trans (ih d)
    | error => exact ih c

theorem removes_drain (key : Text) (c : Coalescer α) :
    Removes (fun _ => False) key c (c.drain key) := by
  cases h : c.drain key with
  | ok drained =>
    obtain ⟨registry, hdrain, -⟩ := exists_of_drain h
    exact ⟨(Registry.drain?_eq_some_iff.mp hdrain).1, [], (Changes.removed h).traces, nofun⟩
  | error fault =>
    have htraces := (Changes.missed h).traces
    unfold drain at h
    split at h
    · cases h
    · rename_i hnone
      refine ⟨?_, (Except.error.inj h).symm, htraces⟩
      simpa [Registry.drain?] using hnone

theorem removes_perform {visit : Text → Coalescer α → Except Fault (Coalescer α)}
    (hv : ∀ label c d, visit label c = .ok d → LeadsTo P c d) (key : Text) (c : Coalescer α) :
    Removes P key c (c.perform key visit) := by
  have hremoves := removes_drain key c
  unfold perform
  cases h : c.drain key with
  | ok drained =>
    rw [h] at hremoves
    obtain ⟨log, htraces, hlog⟩ := leadsTo_visitAll hv drained.1 drained.2
    exact ⟨hremoves.1, log, (Changes.removed h).traces.trans htraces, hlog⟩
  | error fault =>
    rw [h] at hremoves
    exact hremoves

theorem removes_settleUnless (passedOver : List Text) (key : Text) (a : α) (c : Coalescer α) :
    Removes RegistryEvent.IsAddition key c (c.settleUnless passedOver key a) := by
  refine removes_perform (fun label c d hvisit => ?_) key c
  split at hvisit
  · obtain rfl := Except.ok.inj hvisit
    exact .refl _ c
  · exact leadsTo_deliver hvisit

/-! ## What a change keeps -/

theorem ownKey_of_waiter? {w : Waiter α} (hw : c.waiter? label = some w) (key : Text) :
    c.ownKey label key = w.key := by
  rw [ownKey, hw]

theorem register_eq (label key : Text) (c : Coalescer α) :
    (c.register label key).1.registry = (c.registry.register (c.ownKey label key) label).1 ∧
      (c.register label key).2 = (c.registry.register (c.ownKey label key) label).2 := by
  unfold register ownKey
  cases c.waiter? label <;> exact ⟨rfl, rfl⟩

theorem exists_waiter?_register (label key : Text) (c : Coalescer α) :
    (∃ w, (c.register label key).1.waiter? label = some w ∧ w.key = c.ownKey label key) ∧
      ∀ other w, c.waiter? other = some w → (c.register label key).1.waiter? other = some w := by
  obtain ⟨-, w, -, hw, hkept⟩ := exists_register_eq label key c
  refine ⟨⟨w, hw, ?_⟩, hkept⟩
  cases hknown : c.waiter? label with
  | some v =>
    obtain rfl := Option.some.inj ((hkept label v hknown).symm.trans hw)
    rw [ownKey_of_waiter? hknown]
  | none =>
    have hfind : c.waiters.find? (·.label == label) = none := hknown
    have hnew : (c.register label key).1.waiter? label = some ⟨label, key, .pending⟩ := by
      simp [register, waiter?, List.find?_append, hfind]
    obtain rfl := Option.some.inj (hnew.symm.trans hw)
    rw [ownKey, hknown]

/-- Whether a log tells what is in a coalescer. -/
structure IsLogged (log : List RegistryEvent) (c : Coalescer α) : Prop where
  nodup_keys : c.registry.keys.Nodup
  fits : IsFitting RegistryEvent.Fits log
  batch?_eq (key : Text) :
    c.registry.batch? key = if pending key log = [] then none else some (pending key log)
  own {key label : Text} : label ∈ log.filterMap (RegistryEvent.added? key) →
    ∃ w, c.waiter? label = some w ∧ w.key = key

theorem isLogged_ofName (name : Text) : IsLogged [] (ofName name : Coalescer α) where
  nodup_keys := List.nodup_nil
  fits := isFitting_nil _
  batch?_eq := fun _ => rfl
  own := nofun

namespace IsLogged

variable (h : IsLogged log c)

include h

theorem getD_eq (key : Text) : (c.registry.batch? key).getD [] = pending key log := by
  rw [h.batch?_eq]
  split <;> simp_all

theorem batch?_eq_none_iff (key : Text) : c.registry.batch? key = none ↔ pending key log = [] := by
  rw [h.batch?_eq]
  split <;> simp_all

theorem eq_pending (hbatch : c.registry.batch? key = some batch) :
    batch ≠ [] ∧ pending key log = batch := by
  rw [h.batch?_eq] at hbatch
  split at hbatch
  · cases hbatch
  · rename_i hne
    obtain rfl := Option.some.inj hbatch
    exact ⟨hne, rfl⟩

theorem register (label key : Text) :
    IsLogged (log ++ [.added (c.ownKey label key) label (c.register label key).2])
      (c.register label key).1 := by
  obtain ⟨hregistry, hanswer⟩ := register_eq label key c
  obtain ⟨⟨w, hw, hown⟩, hkept⟩ := exists_waiter?_register label key c
  constructor
  · rw [hregistry]
    exact Registry.nodup_keys_register h.nodup_keys
  · refine isFitting_concat_iff.mpr ⟨h.fits, ?_⟩
    simp only [RegistryEvent.Fits]
    rw [hanswer, Registry.register_snd_eq_first_iff, h.batch?_eq_none_iff]
  · intro k
    rw [hregistry, pending_concat]
    by_cases hk : c.ownKey label key = k
    · rw [← hk, Registry.batch?_register_self, h.getD_eq]
      simp [RegistryEvent.pendingAfter]
    · rw [Registry.batch?_register_of_ne hk, h.batch?_eq]
      simp [RegistryEvent.pendingAfter, hk]
  · intro k other hmem
    rw [List.filterMap_append, List.mem_append] at hmem
    rcases hmem with hmem | hmem
    · obtain ⟨v, hv, hkey⟩ := h.own hmem
      exact ⟨v, hkept _ _ hv, hkey⟩
    · have hnew : c.ownKey label key = k ∧ label = other := by
        simpa [RegistryEvent.added?] using hmem
      obtain ⟨rfl, rfl⟩ := hnew
      exact ⟨w, hw, hown⟩

theorem drained (hd : c.drain key = .ok (batch, d)) : IsLogged (log ++ [.removed key batch]) d := by
  obtain ⟨registry, hdrain, rfl⟩ := exists_of_drain hd
  have hbatch := h.eq_pending (Registry.drain?_eq_some_iff.mp hdrain).1
  refine ⟨Registry.nodup_keys_of_drain? hdrain h.nodup_keys,
    isFitting_concat_iff.mpr ⟨h.fits, hbatch⟩, fun k => ?_, fun hmem => h.own ?_⟩
  · rw [pending_concat]
    by_cases hk : key = k
    · rw [← hk, Registry.batch?_of_drain?_self hdrain h.nodup_keys]
      simp [RegistryEvent.pendingAfter]
    · rw [Registry.batch?_of_drain?_of_ne hdrain hk, h.batch?_eq]
      simp [RegistryEvent.pendingAfter, hk]
  · simpa [List.filterMap_append, RegistryEvent.added?] using hmem

theorem missed (hd : c.drain key = .error fault) : IsLogged (log ++ [.missed key]) c := by
  have hremoves := removes_drain key c
  rw [hd] at hremoves
  have hnone := (h.batch?_eq_none_iff key).mp hremoves.1
  refine ⟨h.nodup_keys, isFitting_concat_iff.mpr ⟨h.fits, hnone⟩, fun k => ?_, fun hmem => h.own ?_⟩
  · rw [pending_concat]
    exact h.batch?_eq k
  · simpa [List.filterMap_append, List.filterMap_cons, RegistryEvent.added?] using hmem

theorem setFuture (label : Text) (future : Future α FollowUp) :
    IsLogged log (c.setFuture label future) := by
  refine ⟨h.nodup_keys, h.fits, h.batch?_eq, fun {k other} hmem => ?_⟩
  obtain ⟨w, hw, hkey⟩ := h.own hmem
  rw [waiter?_setFuture, hw]
  refine ⟨_, rfl, ?_⟩
  by_cases hl : w.label = label <;> simp [hl, hkey]

theorem change (hc : Changes c events d) : IsLogged (log ++ events) d := by
  cases hc with
  | added label key => exact h.register label key
  | removed hd => exact h.drained hd
  | missed hd => exact h.missed hd
  | future label future =>
    rw [List.append_nil]
    exact h.setFuture label future
  | noted followed =>
    rw [List.append_nil]
    exact ⟨h.nodup_keys, h.fits, h.batch?_eq, h.own⟩

theorem traced (ht : Traces c events d) : IsLogged (log ++ events) d := by
  induction ht with
  | nothing =>
    rw [List.append_nil]
    exact h
  | change _ hc ih =>
    rw [← List.append_assoc]
    exact ih.change hc

end IsLogged

/-! ## The main statement -/

/-- Every operation leaves a trace. -/
structure IsTraced (c : Coalescer α) : Prop where
  nothing : Traces c [] c
  trans {d e : Coalescer α} {log log' : List RegistryEvent} :
    Traces c log d → Traces d log' e → Traces c (log ++ log') e
  register (label key : Text) :
    Traces c [.added (c.ownKey label key) label (c.register label key).2] (c.register label key).1
  /-- Only the first under a key is told so. -/
  first_iff (label key : Text) :
    (c.register label key).2 = .first ↔ c.registry.batch? (c.ownKey label key) = none
  drain (key : Text) : Removes (fun _ => False) key c (c.drain key)
  /-- Whatever a visit to the members of a batch does, if it leaves a trace. -/
  perform {P : RegistryEvent → Prop} {visit : Text → Coalescer α → Except Fault (Coalescer α)}
    (key : Text) : (∀ label c d, visit label c = .ok d → LeadsTo P c d) →
    Removes P key c (c.perform key visit)
  settle (key : Text) (a : α) : Removes RegistryEvent.IsAddition key c (c.settle key a)
  settleUnless (passedOver : List Text) (key : Text) (a : α) :
    Removes RegistryEvent.IsAddition key c (c.settleUnless passedOver key a)
  deliver {label : Text} {a : α} {d : Coalescer α} :
    c.deliver label a = .ok d → LeadsTo RegistryEvent.IsAddition c d
  cancel {label : Text} {d : Coalescer α} {r : Bool} :
    c.cancel label = .ok (d, r) → LeadsTo RegistryEvent.IsAddition c d
  onDone {label : Text} {f : FollowUp} {d : Coalescer α} :
    c.onDone label f = .ok d → LeadsTo RegistryEvent.IsAddition c d

/-- What a log says of the coalescer it led to. -/
structure Accounts (log : List RegistryEvent) (c : Coalescer α) : Prop where
  /-- The removed batches of a key and its current one are those added under it. -/
  batches (key : Text) : (log.filterMap (RegistryEvent.removed? key)).flatten ++
    (c.registry.batch? key).getD [] = log.filterMap (RegistryEvent.added? key)
  /-- Everyone is under the key that is theirs. -/
  own {key label : Text} : label ∈ log.filterMap (RegistryEvent.added? key) →
    ∃ w, c.waiter? label = some w ∧ w.key = key
  /-- Who was the first, which batches were removed and which were missing goes with who had been
  added and not removed by then. -/
  fits {before after : List RegistryEvent} {e : RegistryEvent} :
    log = before ++ e :: after → e.Fits before
  batch?_eq (key : Text) :
    c.registry.batch? key = if pending key log = [] then none else some (pending key log)
  /-- Each batch has one who was the first. -/
  firsts (key : Text) : log.countP (RegistryEvent.isFirst key) =
    (log.filterMap (RegistryEvent.removed? key)).length + if c.registry.contains key then 1 else 0
  count : c.registry.count = (pendingKeys log).card
  batch_ne_nil {key : Text} {batch : List Text} : (key, batch) ∈ c.registry.entries → batch ≠ []

theorem isTraced (c : Coalescer α) : c.IsTraced where
  nothing := .nothing
  trans := .trans
  register := fun label key => (Changes.added label key).traces
  first_iff := by
    intro label key
    rw [(register_eq label key c).2, Registry.register_snd_eq_first_iff]
  drain := fun key => removes_drain key c
  perform := fun key hv => removes_perform hv key c
  settle := fun key _ => removes_perform (fun _ _ _ => leadsTo_deliver) key c
  settleUnless := fun passedOver key a => removes_settleUnless passedOver key a c
  deliver := leadsTo_deliver
  cancel := leadsTo_cancel
  onDone := leadsTo_onDone

theorem IsLogged.accounts (h : IsLogged log c) : Accounts log c where
  batches := by
    intro key
    rw [h.getD_eq]
    exact removed_append_pending h.fits key
  own := h.own
  fits := h.fits _ _ _
  batch?_eq := h.batch?_eq
  firsts := by
    intro key
    rw [countP_isFirst_eq h.fits, Registry.contains, h.batch?_eq]
    by_cases hp : pending key log = [] <;> simp [hp]
  count := by
    have hkeys : c.registry.keys.toFinset = pendingKeys log := by
      ext key
      rw [List.mem_toFinset, mem_pendingKeys_iff, ne_eq, ← h.batch?_eq_none_iff,
        Registry.batch?_eq_none_iff, not_not]
    rw [← hkeys, List.toFinset_card_of_nodup h.nodup_keys, Registry.keys, List.length_map,
      Registry.count]
  batch_ne_nil := fun hmem => (h.eq_pending ((Registry.mem_entries_iff h.nodup_keys).mp hmem)).1

/-- Every operation leaves a trace, and whatever trace led to a coalescer accounts for it. -/
theorem batches_account_for_additions (name : Text) :
    (∀ c : Coalescer α, c.IsTraced) ∧
      ∀ (log : List RegistryEvent) (c : Coalescer α), Traces (ofName name) log c → Accounts log c :=
  ⟨isTraced, fun _ _ h => ((isLogged_ofName name).traced h).accounts⟩

/-- Two wait under a key, and a third is to be added under it as soon as the first is done. -/
def withFollower : Coalescer Nat :=
  let waiting := (((ofName defaultName).register "first".toText "key".toText).1.register
    "second".toText "key".toText).1
  waiting.setFuture "first".toText ⟨.pending, [⟨"third".toText, "key".toText⟩]⟩

/-- The third opens a batch of its own in the middle of the delivery to the other two. -/
theorem account_of_addition_during_delivery :
    let log : List RegistryEvent := [.added "key".toText "first".toText .first,
      .added "key".toText "second".toText .joined,
      .removed "key".toText ["first".toText, "second".toText],
      .added "key".toText "third".toText .first]
    ∃ d, withFollower.settle "key".toText 0 = .ok (["first".toText, "second".toText], d) ∧
      Traces (ofName defaultName) log d ∧ Accounts log d := by
  intro log
  have hwaiting : Traces (ofName defaultName) (log.take 2) withFollower :=
    ((Traces.nothing.change (.added "first".toText "key".toText)).change
      (.added "second".toText "key".toText)).change (.future _ _)
  have hdrain : withFollower.drain "key".toText =
    .ok (["first".toText, "second".toText], { withFollower with registry := .empty }) := by rfl
  have hdelivered := (hwaiting.change (.removed hdrain)).change
    (.future "first".toText ⟨.finished 0, []⟩)
  have hfollowed := (hdelivered.change (.added "third".toText "key".toText)).change
    (.noted [("third".toText, .first)])
  have hall := hfollowed.change (.future "second".toText ⟨.finished 0, []⟩)
  exact ⟨_, rfl, hall, (batches_account_for_additions defaultName).2 log _ hall⟩

end SubscriptionClient.Coalescer
