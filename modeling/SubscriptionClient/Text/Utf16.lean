import SubscriptionClient.Text.Basic

/-!
# UTF-16 code units

A code point above the basic plane is written as a high and a low surrogate. Reading joins such a
pair and keeps every other unit as it stands.
-/

namespace SubscriptionClient.Utf16

def ofPoint (c : CodePoint) : List Nat :=
  if c.val < 0x10000 then [c.val]
  else [0xD800 + (c.val - 0x10000) / 0x400, 0xDC00 + (c.val - 0x10000) % 0x400]

def encode (t : Text) : List Nat := t.flatMap ofPoint

/-- The code point of a unit that stands alone. -/
def pointOfUnit (u : Nat) : CodePoint :=
  ⟨u % 0x10000, Nat.lt_of_lt_of_le (Nat.mod_lt _ (by decide)) (by decide)⟩

/-- The code point of a surrogate pair, if the two units are one. -/
def pointOfPair? (u v : Nat) : Option CodePoint :=
  if h : (0xD800 ≤ u ∧ u < 0xDC00) ∧ (0xDC00 ≤ v ∧ v < 0xE000) then
    some ⟨0x10000 + (u - 0xD800) * 0x400 + (v - 0xDC00), by omega⟩
  else none

def decode : List Nat → Text
  | [] => []
  | [u] => [pointOfUnit u]
  | u :: v :: rest =>
    match pointOfPair? u v with
    | some p => p :: decode rest
    | none => pointOfUnit u :: decode (v :: rest)

end SubscriptionClient.Utf16
