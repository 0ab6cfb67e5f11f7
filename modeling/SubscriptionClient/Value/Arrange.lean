/-!
# Sorting by an order that may fail

Some pairs of items have no order, and then there is no sorted list. Others are merely neither
before nor after each other; among those the place of an item is the one that a binary search comes
to. The leading run of a list is in order already; every later item is inserted behind the items
that do not come after it.
-/

namespace SubscriptionClient.Arrange

variable {α ε : Type} (before : α → α → Except ε Bool)

/-- The longest continuation of a run after its last item, and what follows it. The run goes down
when each item comes before the previous one. -/
def continuation (down : Bool) : (last : α) → List α → Except ε (List α × List α)
  | _, [] => .ok ([], [])
  | last, x :: xs => do
    if (← before x last) = down then
      let (run, rest) ← continuation down x xs
      return (x :: run, rest)
    else return ([], x :: xs)

/-- The leading run of a list, put in ascending order, and what follows it. -/
def leadingRun : List α → Except ε (List α × List α)
  | x :: y :: ys => do
    let down ← before y x
    let (run, rest) ← continuation before down y ys
    let all := x :: y :: run
    return (if down then all.reverse else all, rest)
  | xs => .ok (xs, [])

/-- The place of an item between `low` and `high`, found by halving. -/
def place (x : α) (xs : Array α) (low high : Nat) : Except ε Nat :=
  if low < high then
    let middle := low + (high - low) / 2
    match xs[middle]? with
    | some y => do
      if ← before x y then place x xs low middle else place x xs (middle + 1) high
    | none => .ok low
  else .ok low
  termination_by high - low

def insert (xs : Array α) (x : α) : Except ε (Array α) := do
  let n ← place before x xs 0 xs.size
  return (xs.toList.take n ++ x :: xs.toList.drop n).toArray

def sort (xs : List α) : Except ε (List α) := do
  let (run, rest) ← leadingRun before xs
  let sorted ← rest.foldlM (insert before) run.toArray
  return sorted.toList

end SubscriptionClient.Arrange
