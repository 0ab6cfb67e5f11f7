import SubscriptionClient.Error.Failure

/-!
# The order of values

Text compares with text, numbers with numbers, and lists with lists by their first difference. Other
pairs have no order, and asking for one is a misuse, as is asking for the order of a decimal that is
no number. A double that is no number merely stands neither before nor after anything.
-/

namespace SubscriptionClient.Value

def isDecimal : Value → Bool
  | decimal _ => true
  | _ => false

/-- The outcome of comparing two numbers, of which one may be no number. -/
def compareNumbers (v w : Value) (x y : Decimal) : Except Misuse (Option Ordering) :=
  match x.compare? y with
  | some order => .ok (some order)
  | none => if v.isDecimal || w.isDecimal then .error .notANumber else .ok none

mutual

/-- Equality of values: lists item by item, mappings member by member, and scalars as keys. -/
def equal? : Value → Value → Except Misuse Bool
  | list xs, list ys => if xs.length = ys.length then equalItems? xs ys else .ok false
  | map es, map fs => if es.length = fs.length then equalMembers? es fs else .ok false
  | v, w =>
    if (v.isSignaling && w.number?.isSome) || (w.isSignaling && v.number?.isSome) then
      .error .notANumber
    else .ok (v.sameKey w)

def equalItems? : List Value → List Value → Except Misuse Bool
  | x :: xs, y :: ys => do
    if ← equal? x y then equalItems? xs ys else .ok false
  | _, _ => .ok true

def equalMembers? : List (Value × Value) → List (Value × Value) → Except Misuse Bool
  | [], _ => .ok true
  | (k, x) :: es, fs =>
    match find? k fs with
    | some y => do
      if ← equal? x y then equalMembers? es fs else .ok false
    | none => .ok false

end

mutual

def before? : Value → Value → Except Misuse Bool
  | text t, text u => .ok (decide (t < u))
  | bytes a, bytes b => .ok (decide (a < b))
  | dateTime t, dateTime u => match u.later? t with
    | some b => .ok b
    | none => .error .mixedClocks
  | list xs, list ys => itemsBefore? xs ys
  | v, w => match v.number?, w.number? with
    | some x, some y => return (← compareNumbers v w x y) == some .lt
    | _, _ => .error (.unordered v w)

def itemsBefore? : List Value → List Value → Except Misuse Bool
  | x :: xs, y :: ys => do
    if ← equal? x y then itemsBefore? xs ys else before? x y
  | [], _ :: _ => .ok true
  | _, [] => .ok false

end

end SubscriptionClient.Value
