import SubscriptionClient.Text.Basic

/-!
# Registries of waiters

A registry holds, for each key in flight, the batch of those who wait for its outcome, in the order
of registration. The first to register under a key is the one who has to start the request. A batch
is taken out as a whole and is never empty.
-/

namespace SubscriptionClient

inductive Registration where
  | first
  | joined
  deriving DecidableEq

structure Registry (β : Type) where
  entries : List (Text × List β)

namespace Registry

variable {β : Type}

def empty : Registry β := ⟨[]⟩

def batchIn? (key : Text) : List (Text × List β) → Option (List β)
  | [] => none
  | (k, batch) :: es => if k = key then some batch else batchIn? key es

def batch? (key : Text) (r : Registry β) : Option (List β) := batchIn? key r.entries

def contains (key : Text) (r : Registry β) : Bool := (r.batch? key).isSome

def count (r : Registry β) : Nat := r.entries.length

def keys (r : Registry β) : List Text := r.entries.map Prod.fst

def registerIn (key : Text) (b : β) : List (Text × List β) → List (Text × List β)
  | [] => [(key, [b])]
  | (k, batch) :: es =>
    if k = key then (k, batch ++ [b]) :: es else (k, batch) :: registerIn key b es

def register (key : Text) (b : β) (r : Registry β) : Registry β × Registration :=
  (⟨registerIn key b r.entries⟩, if r.contains key then .joined else .first)

def removeIn (key : Text) : List (Text × List β) → List (Text × List β)
  | [] => []
  | (k, batch) :: es => if k = key then es else (k, batch) :: removeIn key es

def drain? (key : Text) (r : Registry β) : Option (List β × Registry β) :=
  (r.batch? key).map fun batch => (batch, ⟨removeIn key r.entries⟩)

/-! ## The view by keys -/

@[simp] theorem batch?_empty (key : Text) : (empty : Registry β).batch? key = none := rfl

theorem batchIn?_registerIn_self (key : Text) (b : β) (es : List (Text × List β)) :
    batchIn? key (registerIn key b es) = some ((batchIn? key es).getD [] ++ [b]) := by
  induction es with
  | nil => simp [registerIn, batchIn?]
  | cons e es ih =>
    obtain ⟨k, batch⟩ := e
    by_cases h : k = key <;> simp [registerIn, batchIn?, h, ih]

theorem batchIn?_registerIn_of_ne {key other : Text} (h : key ≠ other) (b : β)
    (es : List (Text × List β)) :
    batchIn? other (registerIn key b es) = batchIn? other es := by
  induction es with
  | nil => simp [registerIn, batchIn?, h]
  | cons e es ih =>
    obtain ⟨k, batch⟩ := e
    by_cases hk : k = key
    · simp [registerIn, batchIn?, hk, h]
    · by_cases ho : k = other <;> simp [registerIn, batchIn?, hk, ho, ih, h.symm]

theorem batch?_register_self (key : Text) (b : β) (r : Registry β) :
    (r.register key b).1.batch? key = some ((r.batch? key).getD [] ++ [b]) :=
  batchIn?_registerIn_self key b r.entries

theorem batch?_register_of_ne {key other : Text} (h : key ≠ other) (b : β) (r : Registry β) :
    (r.register key b).1.batch? other = r.batch? other :=
  batchIn?_registerIn_of_ne h b r.entries

theorem register_snd_eq_first_iff (key : Text) (b : β) (r : Registry β) :
    (r.register key b).2 = .first ↔ r.batch? key = none := by
  cases h : r.batch? key <;> simp [register, contains, h]

theorem batchIn?_removeIn_of_ne {key other : Text} (h : key ≠ other)
    (es : List (Text × List β)) : batchIn? other (removeIn key es) = batchIn? other es := by
  induction es with
  | nil => rfl
  | cons e es ih =>
    obtain ⟨k, batch⟩ := e
    by_cases hk : k = key
    · simp [removeIn, batchIn?, hk, h]
    · by_cases ho : k = other <;> simp [removeIn, batchIn?, hk, ho, ih, h.symm]

end Registry

end SubscriptionClient
