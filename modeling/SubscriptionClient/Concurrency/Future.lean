import SubscriptionClient.Text.Basic

/-!
# Futures

A future is pending until it is finished with an outcome or cancelled, and done from then on. What
is registered to follow it is handed back exactly once, when it becomes done. A delivery to a
cancelled future is skipped, but only the first time.
-/

namespace SubscriptionClient

inductive FutureState (α : Type) where
  | pending
  | cancelled
  /-- Cancelled, and a delivery has been skipped for it. -/
  | cancelNoticed
  | finished (a : α)

namespace FutureState

variable {α : Type}

def isDone : FutureState α → Bool
  | pending => false
  | _ => true

def isCancelled : FutureState α → Bool
  | cancelled | cancelNoticed => true
  | _ => false

def outcome? : FutureState α → Option α
  | finished a => some a
  | _ => none

end FutureState

/-- A future with what is to follow it, in the order of registration. -/
structure Future (α κ : Type) where
  state : FutureState α
  followers : List κ

namespace Future

variable {α κ : Type}

def pending : Future α κ := ⟨.pending, []⟩

def isDone (f : Future α κ) : Bool := f.state.isDone

/-- Cancels a pending future; what follows it comes second. -/
def cancel (f : Future α κ) : Future α κ × List κ :=
  match f.state with
  | .pending => (⟨.cancelled, []⟩, f.followers)
  | _ => (f, [])

/-- Delivers an outcome; what follows comes second. A future that is finished, or whose
cancellation was noticed, refuses. -/
def deliver? (a : α) (f : Future α κ) : Option (Future α κ × List κ) :=
  match f.state with
  | .pending => some (⟨.finished a, []⟩, f.followers)
  | .cancelled => some ({ f with state := .cancelNoticed }, [])
  | _ => none

/-- Registers what is to follow. With a future that is done nothing is registered: it has to follow
at once. -/
def followedBy? (k : κ) (f : Future α κ) : Option (Future α κ) :=
  if f.isDone then none else some { f with followers := f.followers ++ [k] }

theorem cancel_of_isDone {f : Future α κ} (h : f.isDone = true) : f.cancel = (f, []) := by
  obtain ⟨state, followers⟩ := f
  cases state <;> simp_all [isDone, FutureState.isDone, cancel]

theorem isDone_cancel (f : Future α κ) : f.cancel.1.isDone = true := by
  obtain ⟨state, followers⟩ := f
  cases state <;> rfl

/-- Only a pending future takes an outcome. -/
theorem deliver?_eq_finished {a : α} {f : Future α κ} (h : f.state = .pending) :
    f.deliver? a = some (⟨.finished a, []⟩, f.followers) := by
  simp [deliver?, h]

end Future

end SubscriptionClient
