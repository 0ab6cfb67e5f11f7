import SubscriptionClient.Text.Utf16
import SubscriptionClient.Value.Arrange
import SubscriptionClient.Value.Order

/-!
# Canonical JSON

One text for each value: ASCII only, members sorted, numbers in their shortest form. Members sort by
their names as code points, or by value when the keys are no text; a mapping whose keys do not
compare has no canonical text.
-/

namespace SubscriptionClient.Json

/-- What stands between items and after a member name. -/
structure Layout where
  item : Text
  name : Text

def compact : Layout := ⟨",".toText, ":".toText⟩

def spaced : Layout := ⟨", ".toText, ": ".toText⟩

/-- The short escape of a character that has one. -/
def shortEscape? (n : Nat) : Option Char :=
  if n = 8 then some 'b'
  else if n = 9 then some 't'
  else if n = 10 then some 'n'
  else if n = 12 then some 'f'
  else if n = 13 then some 'r'
  else if n = 34 then some '"'
  else if n = 92 then some '\\'
  else none

def escapePoint (c : CodePoint) : Text :=
  match shortEscape? c.val with
  | some mark => [Value.backslash, CodePoint.ofChar mark]
  | none =>
    if 32 ≤ c.val ∧ c.val < 127 then [c]
    else (Utf16.ofPoint c).flatMap (Value.hexEscape 'u' 4)

def quote (t : Text) : Text :=
  CodePoint.ofChar '"' :: t.flatMap escapePoint ++ [CodePoint.ofChar '"']

/-- The name of the member under a key; a key of another kind has none. -/
def memberName? : Value → Except Misuse Text
  | .text t => .ok t
  | .bool b => .ok (if b then "true" else "false").toText
  | .int n => Misuse.ofWritten (Numeral.write? n)
  | .float x => .ok (x.text Double.jsonLayout)
  | .null => .ok "null".toText
  | key => .error (.unnameable key)

/-- A member of an object: its key, and the text of its value if that has one. -/
structure Member where
  key : Value
  body : Except Misuse Text

namespace Member

/-- The key of a member that has a name. -/
def text? (m : Member) : Option Text :=
  match m.key with
  | .text t => some t
  | _ => none

def le (m n : Member) : Bool :=
  match m.text?, n.text? with
  | some t, some u => !decide (u < t)
  | _, _ => true

end Member

/-- The members of an object in canonical order, if they have one: by name, or in the order of the
keys when some key is no text. -/
def arrange? (ms : List Member) : Except Misuse (List Member) :=
  if ms.all (·.text?.isSome) then .ok (ms.mergeSort Member.le)
  else Arrange.sort (fun m n => m.key.before? n.key) ms

def enclose (opening closing : String) (layout : Layout) (parts : List Text) : Text :=
  opening.toText ++ List.intercalate layout.item parts ++ closing.toText

def memberText (layout : Layout) (m : Member) : Except Misuse Text := do
  return quote (← memberName? m.key) ++ layout.name ++ (← m.body)

mutual

/-- The canonical text of a value. The first member without a name or a text decides what is
wrong. -/
def write? (layout : Layout) : Value → Except Misuse Text
  | .null => .ok "null".toText
  | .bool b => .ok (if b then "true" else "false").toText
  | .int n => Misuse.ofWritten (Numeral.write? n)
  | .float x => .ok (x.text Double.jsonLayout)
  | .text t => .ok (quote t)
  | .bytes bs => .ok (quote (Value.literalBytes bs))
  | .decimal d => .ok (quote d.text)
  | .dateTime t => .ok (quote t.spacedText)
  | .list xs => (writeItems? layout xs).map (enclose "[" "]" layout)
  | .map es => do
    let ms ← arrange? (members layout es)
    return enclose "\x7b" "\x7d" layout (← ms.mapM (memberText layout))

def writeItems? (layout : Layout) : List Value → Except Misuse (List Text)
  | [] => .ok []
  | v :: vs => do
    let t ← write? layout v
    return t :: (← writeItems? layout vs)

def members (layout : Layout) : List (Value × Value) → List Member
  | [] => []
  | (k, v) :: es => ⟨k, write? layout v⟩ :: members layout es

end

end SubscriptionClient.Json

namespace SubscriptionClient.Value

/-- The first `limit` characters; a negative limit counts from the end, and without a limit it is
all of them. -/
def cut : (limit : Option Int) → Text → Text
  | none, t => t
  | some (.ofNat n), t => t.take n
  | some (.negSucc n), t => t.take (t.length - (n + 1))

/-- A text for diagnostics: canonical JSON, or the literal form of a value that has none. Keys that
are decimals but no numbers spoil even that, and an integer of too many digits spoils both. -/
def describe? (limit : Option Int) (v : Value) : Except Misuse Text :=
  match Json.write? Json.spaced v with
  | .ok t => .ok (cut limit t)
  | .error m =>
    if m.kind = .arithmetic then .error m else (Misuse.ofWritten v.literal?).map (cut limit)

/-- How much of a body a diagnostic shows. -/
def describeLimit : Option Int := some 2000

end SubscriptionClient.Value
