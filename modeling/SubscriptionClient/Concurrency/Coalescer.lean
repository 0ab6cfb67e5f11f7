import SubscriptionClient.Concurrency.Future
import SubscriptionClient.Concurrency.Registry
import SubscriptionClient.Error.Fault

/-!
# Coalescers

A coalescer shares one request among all who wait for it under one key. When the request is over,
the batch of its key is taken out and every member is given the same outcome, in the order of
registration. A waiter may be followed by further registrations, which take place as soon as it is
done; those made during a delivery go into a new batch.
-/

namespace SubscriptionClient

structure FollowUp where
  label : Text
  key : Text
  deriving DecidableEq

structure Waiter (α : Type) where
  label : Text
  key : Text
  future : Future α FollowUp

structure Coalescer (α : Type) where
  name : Text
  registry : Registry Text
  waiters : List (Waiter α)
  /-- The registrations that followed waiters, and how they fared. -/
  followed : List (Text × Registration)

namespace Coalescer

variable {α : Type}

def defaultName : Text := "requests".toText

def ofName (name : Text) : Coalescer α := ⟨name, .empty, [], []⟩

def waiter? (label : Text) (c : Coalescer α) : Option (Waiter α) :=
  c.waiters.find? (·.label == label)

def setFuture (label : Text) (future : Future α FollowUp) (c : Coalescer α) : Coalescer α :=
  { c with
    waiters := c.waiters.map fun w => if w.label = label then { w with future } else w }

/-- Registers a waiter. One that is known already is registered again under its own key. -/
def register (label key : Text) (c : Coalescer α) : Coalescer α × Registration :=
  match c.waiter? label with
  | some w =>
    let (registry, registration) := c.registry.register w.key label
    ({ c with registry }, registration)
  | none =>
    let (registry, registration) := c.registry.register key label
    ({ c with registry, waiters := c.waiters ++ [⟨label, key, .pending⟩] }, registration)

def follow (c : Coalescer α) (f : FollowUp) : Coalescer α :=
  let (next, registration) := c.register f.label f.key
  { next with followed := next.followed ++ [(f.label, registration)] }

def followAll (c : Coalescer α) (fs : List FollowUp) : Coalescer α := fs.foldl follow c

def cancel (label : Text) (c : Coalescer α) : Except Fault (Coalescer α × Bool) :=
  match c.waiter? label with
  | some w =>
    let (future, fs) := w.future.cancel
    .ok ((c.setFuture label future).followAll fs, future.state.isCancelled)
  | none => .error (.unknownLabel label)

/-- Delivers an outcome to one waiter, unless its future refuses. -/
def deliver (label : Text) (a : α) (c : Coalescer α) : Except Fault (Coalescer α) :=
  match c.waiter? label with
  | some w => match w.future.deliver? a with
    | some (future, fs) => .ok ((c.setFuture label future).followAll fs)
    | none => .error .futureSettled
  | none => .error (.unknownLabel label)

/-- Registers what follows a waiter. It takes place at once if the waiter is done already. -/
def onDone (label : Text) (f : FollowUp) (c : Coalescer α) : Except Fault (Coalescer α) :=
  match c.waiter? label with
  | some w => match w.future.followedBy? f with
    | some future => .ok (c.setFuture label future)
    | none => .ok (c.follow f)
  | none => .error (.unknownLabel label)

/-- Takes out the batch of a key; there has to be one. -/
def drain (key : Text) (c : Coalescer α) : Except Fault (List Text × Coalescer α) :=
  match c.registry.drain? key with
  | some (batch, registry) => .ok (batch, { c with registry })
  | none => .error (.nothingWaiting c.name key)

/-- Visits the members of a batch in turn. A visit that fails changes nothing and does not stop the
others. -/
def visitAll (visit : Text → Coalescer α → Except Fault (Coalescer α)) (batch : List Text)
    (c : Coalescer α) : Coalescer α :=
  batch.foldl (fun c label => match visit label c with
    | .ok next => next
    | .error _ => c) c

def perform (key : Text) (visit : Text → Coalescer α → Except Fault (Coalescer α))
    (c : Coalescer α) : Except Fault (List Text × Coalescer α) := do
  let (batch, drained) ← c.drain key
  return (batch, drained.visitAll visit batch)

def settle (key : Text) (a : α) (c : Coalescer α) : Except Fault (List Text × Coalescer α) :=
  c.perform key fun label => deliver label a

/-- Gives the members of the batch of a key the same outcome, but passes over some of them. -/
def settleUnless (passedOver : List Text) (key : Text) (a : α) (c : Coalescer α) :
    Except Fault (List Text × Coalescer α) :=
  c.perform key fun label c => if label ∈ passedOver then .ok c else c.deliver label a

def state? (label : Text) (c : Coalescer α) : Option (FutureState α) :=
  (c.waiter? label).map (·.future.state)

end Coalescer

end SubscriptionClient
