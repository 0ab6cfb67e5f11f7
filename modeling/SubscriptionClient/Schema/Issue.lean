import SubscriptionClient.Value.Literal

/-!
# Decoding issues

Decoding collects every issue it meets, each with the path to the value at fault.
-/

namespace SubscriptionClient

/-- One step from a value into a part of it. -/
inductive Place where
  | name (t : Text)
  | index (n : Int)
  deriving DecidableEq

inductive IssueKind where
  | missing
  | recordExpected
  | mappingExpected
  | listExpected
  | textExpected
  | textUnreadable
  | integerExpected
  | integerUnreadable
  | integerTooLong
  | integerHasFraction
  | numberNotFinite
  | booleanExpected
  | booleanUnreadable
  | dateTimeExpected
  | dateTimeUnreadable
  | refused
  deriving DecidableEq

namespace IssueKind

/-- The word for the issue in reports. -/
def word : IssueKind → String
  | missing => "missing"
  | recordExpected => "model_type"
  | mappingExpected => "dict_type"
  | listExpected => "list_type"
  | textExpected => "string_type"
  | textUnreadable => "string_unicode"
  | integerExpected => "int_type"
  | integerUnreadable => "int_parsing"
  | integerTooLong => "int_parsing_size"
  | integerHasFraction => "int_from_float"
  | numberNotFinite => "finite_number"
  | booleanExpected => "bool_type"
  | booleanUnreadable => "bool_parsing"
  | dateTimeExpected => "datetime_type"
  | dateTimeUnreadable => "datetime_parsing"
  | refused => "value_error"

end IssueKind

structure Issue where
  kind : IssueKind
  path : List Place
  deriving DecidableEq

/-- A decoded value, or all issues in order. -/
abbrev Decoded (α : Type) := Except (List Issue) α

namespace Decoded

def fail {α : Type} (kind : IssueKind) : Decoded α := .error [⟨kind, []⟩]

/-- The issues of a part, seen from the whole. -/
def under {α : Type} (place : Place) : Decoded α → Decoded α
  | .ok a => .ok a
  | .error issues => .error (issues.map fun i => { i with path := place :: i.path })

/-- Both results, or the issues of both. -/
def both {α β : Type} : Decoded α → Decoded β → Decoded (α × β)
  | .ok a, .ok b => .ok (a, b)
  | .error i, .ok _ => .error i
  | .ok _, .error j => .error j
  | .error i, .error j => .error (i ++ j)

/-- Decodes the items of a list, numbering them from `start`. -/
def items {α : Type} (f : Value → Decoded α) : (start : Nat) → List Value → Decoded (List α)
  | _, [] => .ok []
  | n, v :: vs => (both ((f v).under (.index n)) (items f (n + 1) vs)).map fun p => p.1 :: p.2

/-- How a path shows a text: each byte of a surrogate becomes a replacement character. -/
def shown (t : Text) : Text :=
  t.flatMap fun c => if c.isSurrogate then List.replicate 3 (CodePoint.ofChar '\ufffd') else [c]

/-- The step that leads to the value under a key. An integer beyond sixty-four bits counts by its
text, if it has one. -/
def placeOfKey : Value → Place
  | .text t => .name (shown t)
  | .int n =>
    if -(2 ^ 63) ≤ n ∧ n < 2 ^ 63 then .index n
    else .name ((Numeral.write? n).getD "<unprintable int object>".toText)
  | .bool b => .index (if b then 1 else 0)
  | key => .name key.literal

def key (name : Value → Decoded Text) (k : Value) : Decoded Text :=
  ((name k).under (.name "[key]".toText)).under (placeOfKey k)

def members {α : Type} (name : Value → Decoded Text) (f : Value → Decoded α) :
    List (Value × Value) → Decoded (List (Text × α))
  | [] => .ok []
  | (k, v) :: es =>
    (both (both (key name k) ((f v).under (placeOfKey k))) (members name f es)).map fun p =>
      p.1 :: p.2

/-- Sets the value of a name. A name that is there keeps its place. -/
def putNamed {α : Type} (name : Text) (a : α) : List (Text × α) → List (Text × α)
  | [] => [(name, a)]
  | (n, b) :: es => if n = name then (n, a) :: es else (n, b) :: putNamed name a es

/-- One entry for each name: different keys may have decoded to one. -/
def collectNamed {α : Type} (es : List (Text × α)) : List (Text × α) :=
  es.foldl (fun acc e => putNamed e.1 e.2 acc) []

end Decoded

end SubscriptionClient
