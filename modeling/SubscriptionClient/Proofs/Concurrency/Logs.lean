import Mathlib.Data.Finset.Card
import Mathlib.Data.Finset.Dedup
import Mathlib.Data.List.Induction
import SubscriptionClient.Concurrency.Registry

/-!
# Logs

A log tells what happened, with the latest at its end. The log of a registry tells who was added and
which batches were removed. If each of its events fits what came before it, then everyone added under
a key is found once, and in order, in a batch removed for that key or among those who still wait.
-/

namespace SubscriptionClient

/-- Whether every event of a log fits what comes before it. -/
def IsFitting {ε : Type} (fits : List ε → ε → Prop) (log : List ε) : Prop :=
  ∀ before e after, log = before ++ e :: after → fits before e

theorem isFitting_nil {ε : Type} (fits : List ε → ε → Prop) : IsFitting fits [] := by
  simp [IsFitting]

theorem isFitting_concat_iff {ε : Type} {fits : List ε → ε → Prop} {log : List ε} {e : ε} :
    IsFitting fits (log ++ [e]) ↔ IsFitting fits log ∧ fits log e := by
  constructor
  · intro h
    refine ⟨fun before e' after hlog => ?_, h log e [] rfl⟩
    exact h before e' (after ++ [e]) (by simp [hlog])
  · rintro ⟨h, he⟩ before e' after hlog
    rcases List.eq_nil_or_concat after with rfl | ⟨init, last, rfl⟩
    · obtain ⟨rfl, he'⟩ := List.append_inj' hlog rfl
      rwa [← List.singleton_inj.mp he']
    · rw [List.concat_eq_append, ← List.cons_append, ← List.append_assoc] at hlog
      exact h before e' init (List.append_inj' hlog rfl).1

/-! ## The log of a registry -/

inductive RegistryEvent where
  | added (key label : Text) (registration : Registration)
  | removed (key : Text) (batch : List Text)
  /-- A batch was to be removed that is not there. -/
  | missed (key : Text)

namespace RegistryEvent

def key : RegistryEvent → Text
  | added key _ _ => key
  | removed key _ => key
  | missed key => key

def IsAddition : RegistryEvent → Prop
  | added _ _ _ => True
  | _ => False

/-- Who is added under a key. -/
def added? (key : Text) : RegistryEvent → Option Text
  | added k label _ => if k = key then some label else none
  | removed _ _ | missed _ => none

/-- The batch removed for a key. -/
def removed? (key : Text) : RegistryEvent → Option (List Text)
  | removed k batch => if k = key then some batch else none
  | added _ _ _ | missed _ => none

/-- Whether someone is told to be the first under a key. -/
def isFirst (key : Text) : RegistryEvent → Bool
  | added k _ .first => k = key
  | _ => false

/-- Who waits under a key after an event, from those who waited before it. -/
def pendingAfter (key : Text) (pending : List Text) : RegistryEvent → List Text
  | added k label _ => if k = key then pending ++ [label] else pending
  | removed k _ => if k = key then [] else pending
  | missed _ => pending

end RegistryEvent

/-- Who was added under a key since its batch was removed last. -/
def pending (key : Text) (log : List RegistryEvent) : List Text :=
  log.foldl (RegistryEvent.pendingAfter key) []

/-- The keys added and not removed since. -/
def pendingKeys (log : List RegistryEvent) : Finset Text :=
  (log.map RegistryEvent.key).toFinset.filter fun key => pending key log ≠ []

/-- What has happened before an event. -/
def RegistryEvent.Fits (before : List RegistryEvent) : RegistryEvent → Prop
  | added key _ registration => registration = .first ↔ pending key before = []
  | removed key batch => batch ≠ [] ∧ pending key before = batch
  | missed key => pending key before = []

variable {key : Text} {log : List RegistryEvent} {e : RegistryEvent}

@[simp] theorem pending_concat (key : Text) (log : List RegistryEvent) (e : RegistryEvent) :
    pending key (log ++ [e]) = e.pendingAfter key (pending key log) := by
  simp [pending]

theorem RegistryEvent.pendingAfter_of_ne (h : e.key ≠ key) (pending : List Text) :
    e.pendingAfter key pending = pending := by
  cases e <;> simp_all [RegistryEvent.pendingAfter, RegistryEvent.key]

/-- Nobody is lost, told twice or moved to another key. -/
theorem removed_append_pending (h : IsFitting RegistryEvent.Fits log) (key : Text) :
    (log.filterMap (RegistryEvent.removed? key)).flatten ++ pending key log =
      log.filterMap (RegistryEvent.added? key) := by
  induction log using List.reverseRecOn with
  | nil => apply List.nil_append
  | append_singleton log e ih =>
    obtain ⟨hlog, he⟩ := isFitting_concat_iff.mp h
    have hsofar := ih hlog
    rw [List.filterMap_append, List.filterMap_append, ← hsofar, pending_concat]
    cases e with
    | added k label registration =>
      by_cases hk : k = key <;>
        simp [RegistryEvent.removed?, RegistryEvent.added?, RegistryEvent.pendingAfter, hk]
    | removed k batch =>
      obtain ⟨-, hbatch⟩ := he
      by_cases hk : k = key
      · rw [hk] at hbatch
        simp [RegistryEvent.removed?, RegistryEvent.added?, RegistryEvent.pendingAfter, hk, hbatch]
      · simp [RegistryEvent.removed?, RegistryEvent.added?, RegistryEvent.pendingAfter, hk]
    | missed k =>
      simp [RegistryEvent.removed?, RegistryEvent.added?, RegistryEvent.pendingAfter,
        List.filterMap_cons]

/-- Each batch has one first member, and so has the one that still waits. -/
theorem countP_isFirst_eq (h : IsFitting RegistryEvent.Fits log) (key : Text) :
    log.countP (RegistryEvent.isFirst key) =
      (log.filterMap (RegistryEvent.removed? key)).length + if pending key log = [] then 0 else 1 := by
  induction log using List.reverseRecOn with
  | nil => rfl
  | append_singleton log e ih =>
    obtain ⟨hlog, he⟩ := isFitting_concat_iff.mp h
    have hsofar := ih hlog
    rw [List.countP_append, List.filterMap_append, List.length_append, pending_concat, hsofar]
    cases e with
    | added k label registration =>
      by_cases hk : k = key
      · have hfirst : registration = .first ↔ pending key log = [] := hk ▸ he
        cases registration <;>
          simp_all [RegistryEvent.removed?, RegistryEvent.isFirst, RegistryEvent.pendingAfter]
      · cases registration <;>
          simp [RegistryEvent.removed?, RegistryEvent.isFirst, RegistryEvent.pendingAfter, hk]
    | removed k batch =>
      obtain ⟨hne, hbatch⟩ := he
      by_cases hk : k = key
      · rw [hk] at hbatch
        simp [RegistryEvent.removed?, RegistryEvent.isFirst, RegistryEvent.pendingAfter, hk, hbatch,
          hne]
      · simp [RegistryEvent.removed?, RegistryEvent.isFirst, RegistryEvent.pendingAfter, hk]
    | missed k => rfl

theorem exists_key_of_pending (h : pending key log ≠ []) : ∃ e ∈ log, e.key = key := by
  induction log using List.reverseRecOn with
  | nil => exact absurd rfl h
  | append_singleton log e ih =>
    by_cases he : e.key = key
    · exact ⟨e, by simp, he⟩
    · rw [pending_concat, RegistryEvent.pendingAfter_of_ne he] at h
      obtain ⟨e', hmem, he'⟩ := ih h
      exact ⟨e', by simp [hmem], he'⟩

theorem mem_pendingKeys_iff : key ∈ pendingKeys log ↔ pending key log ≠ [] := by
  simp only [pendingKeys, Finset.mem_filter, List.mem_toFinset, List.mem_map]
  constructor
  · exact And.right
  · exact fun h => ⟨exists_key_of_pending h, h⟩

end SubscriptionClient
