import SubscriptionClient.Error.Failure

/-!
# Values as collections

The items that a value holds, and the mapping that it stands for: a mapping itself, or a collection
of pairs.
-/

namespace SubscriptionClient.Value

/-- The items of a value in their order: of a mapping its keys, of a text its characters, of bytes
their numbers. -/
def items? : Value → Except Misuse (List Value)
  | list items => .ok items
  | map members => .ok (members.map Prod.fst)
  | text t => .ok (t.map fun c => text [c])
  | bytes bs => .ok (bs.map fun b => int b.toNat)
  | v => .error (.notIterable v)

def pair? (v : Value) : Except Misuse (Value × Value) := do
  match ← v.items? with
  | [key, item] => if key.isKey then .ok (key, item) else .error (.unusableKey key)
  | _ => .error .notAPair

/-- The members of the mapping that a value stands for. -/
def toMembers? : Value → Except Misuse (List (Value × Value))
  | map members => .ok members
  | v => do
    let pairs ← (← v.items?).mapM pair?
    return collect pairs

end SubscriptionClient.Value
