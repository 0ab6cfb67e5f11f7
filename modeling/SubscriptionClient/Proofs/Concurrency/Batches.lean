import Mathlib.Data.List.Nodup
import Mathlib.Data.List.Perm.Basic
import SubscriptionClient.Concurrency.Registry

/-!
# Batches of a registry

A registry seen as the batches under its keys and as the list of all who wait in it. Registering
adds one waiter, and draining takes out exactly the batch of its key.
-/

namespace SubscriptionClient.Registry

variable {β : Type} {key other : Text} {b : β} {r : Registry β}

def waiting (r : Registry β) : List β := r.entries.flatMap Prod.snd

theorem contains_iff : r.contains key = true ↔ ∃ batch, r.batch? key = some batch := by
  simp [contains, Option.isSome_iff_exists]

theorem batchIn?_isSome_iff (key : Text) (es : List (Text × List β)) :
    (batchIn? key es).isSome = true ↔ key ∈ es.map Prod.fst := by
  induction es with
  | nil => simp [batchIn?]
  | cons e es ih =>
    obtain ⟨k, batch⟩ := e
    by_cases h : k = key
    · simp [batchIn?, h]
    · simp [batchIn?, h, ih, Ne.symm h]

theorem mem_keys_iff : key ∈ r.keys ↔ ∃ batch, r.batch? key = some batch := by
  rw [← Option.isSome_iff_exists]
  exact (batchIn?_isSome_iff key r.entries).symm

theorem batch?_eq_none_iff : r.batch? key = none ↔ key ∉ r.keys := by
  rw [mem_keys_iff, not_exists, Option.eq_none_iff_forall_not_mem]
  rfl

theorem mem_entries_of_batchIn? {batch : List β} {es : List (Text × List β)}
    (h : batchIn? key es = some batch) : (key, batch) ∈ es := by
  induction es with
  | nil => simp [batchIn?] at h
  | cons e es ih =>
    obtain ⟨k, other⟩ := e
    by_cases hk : k = key
    · simp only [batchIn?, hk, if_true, Option.some.injEq] at h
      simp [hk, h]
    · simp only [batchIn?, hk, if_false] at h
      exact List.mem_cons_of_mem _ (ih h)

theorem batchIn?_of_mem_entries {batch : List β} {es : List (Text × List β)}
    (hn : (es.map Prod.fst).Nodup) (h : (key, batch) ∈ es) : batchIn? key es = some batch := by
  induction es with
  | nil => simp at h
  | cons e es ih =>
    obtain ⟨k, other⟩ := e
    obtain ⟨hk, hn⟩ := List.nodup_cons.mp hn
    rcases List.mem_cons.mp h with h | h
    · simp only [Prod.mk.injEq] at h
      simp [batchIn?, h]
    · have hne : k ≠ key := by
        rintro rfl
        exact hk (List.mem_map.mpr ⟨_, h, rfl⟩)
      simp only [batchIn?, hne, if_false]
      exact ih hn h

theorem mem_entries_iff (hn : r.keys.Nodup) {batch : List β} :
    (key, batch) ∈ r.entries ↔ r.batch? key = some batch :=
  ⟨batchIn?_of_mem_entries hn, mem_entries_of_batchIn?⟩

theorem mem_waiting_of_batch? {batch : List β} (h : r.batch? key = some batch) (hb : b ∈ batch) :
    b ∈ r.waiting :=
  List.mem_flatMap.mpr ⟨(key, batch), mem_entries_of_batchIn? h, hb⟩

/-! ## Registering -/

theorem register_snd_eq_joined_iff :
    (r.register key b).2 = .joined ↔ ∃ batch, r.batch? key = some batch := by
  rw [← contains_iff]
  cases h : r.contains key <;> simp [register, h]

theorem map_fst_registerIn_of_mem (b : β) {es : List (Text × List β)}
    (h : key ∈ es.map Prod.fst) : (registerIn key b es).map Prod.fst = es.map Prod.fst := by
  induction es with
  | nil => simp at h
  | cons e es ih =>
    obtain ⟨k, batch⟩ := e
    by_cases hk : k = key
    · simp [registerIn, hk]
    · have hmem : key ∈ es.map Prod.fst := by simpa [Ne.symm hk] using h
      simp [registerIn, hk, ih hmem]

theorem registerIn_of_notMem (b : β) {es : List (Text × List β)} (h : key ∉ es.map Prod.fst) :
    registerIn key b es = es ++ [(key, [b])] := by
  induction es with
  | nil => rfl
  | cons e es ih =>
    obtain ⟨k, batch⟩ := e
    simp only [List.map_cons, List.mem_cons, not_or] at h
    simp [registerIn, Ne.symm h.1, ih h.2]

theorem nodup_keys_register (h : r.keys.Nodup) : (r.register key b).1.keys.Nodup := by
  by_cases hk : key ∈ r.keys
  · have := map_fst_registerIn_of_mem b hk
    simpa [keys, register, this] using h
  · have := registerIn_of_notMem b hk
    simp only [keys, register, this, List.map_append, List.map_cons, List.map_nil]
    exact List.nodup_append_comm.mpr (List.nodup_cons.mpr ⟨hk, h⟩)

theorem waiting_register_perm (key : Text) (b : β) (r : Registry β) :
    (r.register key b).1.waiting.Perm (b :: r.waiting) := by
  obtain ⟨es⟩ := r
  simp only [waiting, register]
  induction es with
  | nil => simp [registerIn]
  | cons e es ih =>
    obtain ⟨k, batch⟩ := e
    by_cases hk : k = key
    · simp only [registerIn, hk, if_true, List.flatMap_cons, List.append_assoc]
      exact List.perm_middle
    · simp only [registerIn, hk, if_false, List.flatMap_cons]
      exact (ih.append_left batch).trans List.perm_middle

/-! ## Draining -/

theorem drain?_eq_some_iff {batch : List β} {r' : Registry β} :
    r.drain? key = some (batch, r') ↔
      r.batch? key = some batch ∧ r' = ⟨removeIn key r.entries⟩ := by
  simp only [drain?, Option.map_eq_some_iff, Prod.mk.injEq]
  constructor
  · rintro ⟨_, h, rfl, rfl⟩
    exact ⟨h, rfl⟩
  · rintro ⟨h, rfl⟩
    exact ⟨batch, h, rfl, rfl⟩

theorem map_fst_removeIn (key : Text) (es : List (Text × List β)) :
    (removeIn key es).map Prod.fst = (es.map Prod.fst).erase key := by
  induction es with
  | nil => rfl
  | cons e es ih =>
    obtain ⟨k, batch⟩ := e
    by_cases hk : k = key
    · simp [removeIn, hk]
    · rw [removeIn, if_neg hk, List.map_cons, List.map_cons, ih,
        List.erase_cons_tail (by simpa using hk)]

variable {batch : List β} {r' : Registry β}

theorem nodup_keys_of_drain? (h : r.drain? key = some (batch, r')) (hn : r.keys.Nodup) :
    r'.keys.Nodup := by
  obtain ⟨-, rfl⟩ := drain?_eq_some_iff.mp h
  have hk := map_fst_removeIn key r.entries
  simp only [keys] at hn ⊢
  rw [hk]
  exact hn.erase key

theorem batch?_of_drain?_self (h : r.drain? key = some (batch, r')) (hn : r.keys.Nodup) :
    r'.batch? key = none := by
  obtain ⟨-, rfl⟩ := drain?_eq_some_iff.mp h
  rw [batch?_eq_none_iff]
  intro hk
  have hkeys := map_fst_removeIn key r.entries
  simp only [keys] at hn hk
  rw [hkeys] at hk
  exact (List.Nodup.not_mem_erase hn) hk

theorem batch?_of_drain?_of_ne (h : r.drain? key = some (batch, r')) (hne : key ≠ other) :
    r'.batch? other = r.batch? other := by
  obtain ⟨-, rfl⟩ := drain?_eq_some_iff.mp h
  exact batchIn?_removeIn_of_ne hne r.entries

theorem waiting_perm_of_drain? (h : r.drain? key = some (batch, r')) :
    r.waiting.Perm (batch ++ r'.waiting) := by
  obtain ⟨hb, rfl⟩ := drain?_eq_some_iff.mp h
  clear h
  obtain ⟨es⟩ := r
  simp only [waiting, batch?] at hb ⊢
  induction es with
  | nil => simp [batchIn?] at hb
  | cons e es ih =>
    obtain ⟨k, other⟩ := e
    by_cases hk : k = key
    · simp only [batchIn?, hk, if_true, Option.some.injEq] at hb
      simp [removeIn, hk, hb]
    · simp only [batchIn?, hk, if_false] at hb
      have hperm := ih hb
      simp only [removeIn, hk, if_false, List.flatMap_cons]
      exact (hperm.append_left other).trans (List.perm_append_comm_assoc _ _ _)

theorem drain?_register_of_batch?_eq_none (b : β) (h : r.batch? key = none) :
    (r.register key b).1.drain? key = some ([b], r) := by
  have hmem : key ∉ r.entries.map Prod.fst := batch?_eq_none_iff.mp h
  rw [drain?_eq_some_iff, batch?_register_self, h]
  refine ⟨rfl, ?_⟩
  simp only [register, registerIn_of_notMem b hmem]
  obtain ⟨es⟩ := r
  simp only [Registry.mk.injEq]
  induction es with
  | nil => simp [removeIn]
  | cons e es ih =>
    obtain ⟨k, batch⟩ := e
    simp only [List.map_cons, List.mem_cons, not_or] at hmem
    have htail : batch? key ⟨es⟩ = none := batch?_eq_none_iff.mpr hmem.2
    rw [List.cons_append, removeIn, if_neg (Ne.symm hmem.1), ← ih htail hmem.2]

end SubscriptionClient.Registry
