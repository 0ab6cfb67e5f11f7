import SubscriptionClient.Text.Printable
import SubscriptionClient.Value.Basic

/-!
# Literal form of values

The text of a value as it would be written in a program, for diagnostics. Text shown on its own is
not quoted. A value with an integer of too many digits cannot be written in any form.
-/

namespace SubscriptionClient.Value

def backslash : CodePoint := CodePoint.ofChar '\\'

/-- A backslash, a mark, and the last `width` hexadecimal digits of a code. -/
def hexEscape (mark : Char) (width n : Nat) : Text :=
  backslash :: CodePoint.ofChar mark :: Hex.ofNat width n

/-- The quote of a literal: the single one unless only that occurs inside. -/
def quoteFor (codes : List Nat) : CodePoint :=
  if 39 ∈ codes ∧ 34 ∉ codes then 34 else 39

/-- Escapes that text and byte literals share. -/
def commonEscape? (quote : CodePoint) (n : Nat) : Option Text :=
  if n = quote.val then some [backslash, quote]
  else if n = 92 then some [backslash, backslash]
  else if n = 9 then some (backslash :: "t".toText)
  else if n = 10 then some (backslash :: "n".toText)
  else if n = 13 then some (backslash :: "r".toText)
  else if n < 32 ∨ n = 127 then some (hexEscape 'x' 2 n)
  else none

def literalPoint (quote c : CodePoint) : Text :=
  match commonEscape? quote c.val with
  | some t => t
  | none =>
    if c.val < 127 ∨ c.isPrintable then [c]
    else if c.val < 0x100 then hexEscape 'x' 2 c.val
    else if c.val < 0x10000 then hexEscape 'u' 4 c.val
    else hexEscape 'U' 8 c.val

def literalText (t : Text) : Text :=
  let quote := quoteFor (t.map (·.val))
  quote :: t.flatMap (literalPoint quote) ++ [quote]

def literalByte (quote : CodePoint) (b : UInt8) : Text :=
  match commonEscape? quote b.toNat with
  | some t => t
  | none => if b.toNat < 127 then [Fin.ofNat _ b.toNat] else hexEscape 'x' 2 b.toNat

def literalBytes (bs : List UInt8) : Text :=
  let quote := quoteFor (bs.map (·.toNat))
  "b".toText ++ quote :: bs.flatMap (literalByte quote) ++ [quote]

def commaSeparated (ts : List Text) : Text := List.intercalate ", ".toText ts

/-- An offset as whole days, the seconds after them and the microseconds after those. -/
def literalOffset (east : Int) : Text :=
  if east = 0 then "datetime.timezone.utc".toText
  else
    let parts := [("days=", east / (DateTime.microsPerDay : Int)),
      ("seconds=", east % (DateTime.microsPerDay : Int) / (DateTime.microsPerSecond : Int)),
      ("microseconds=", east % (DateTime.microsPerSecond : Int))]
    let shown := (parts.filter fun p => p.2 ≠ 0).map fun p => p.1.toText ++ Text.ofInt p.2
    "datetime.timezone(datetime.timedelta(".toText ++ commaSeparated shown ++ "))".toText

/-- Seconds and microseconds are left out when they and all after them are zero. -/
def literalDateTime (t : DateTime) : Text :=
  let tail := if t.microsecond ≠ 0 then [t.second, t.microsecond]
    else if t.second ≠ 0 then [t.second] else []
  let numbers := [t.date.year, t.date.month, t.date.day, t.hour, t.minute] ++ tail
  let zone := (t.offset.map fun east => "tzinfo=".toText ++ literalOffset east).toList
  "datetime.datetime(".toText ++ commaSeparated (numbers.map Text.ofNat ++ zone) ++ ")".toText

mutual

/-- Whether every integer in a value can be written, also in its keys. -/
def isWritable : Value → Bool
  | int n => Numeral.isWritable n
  | list xs => areWritable xs
  | map es => membersAreWritable es
  | _ => true

def areWritable : List Value → Bool
  | [] => true
  | v :: vs => isWritable v && areWritable vs

def membersAreWritable : List (Value × Value) → Bool
  | [] => true
  | (k, v) :: es => isWritable k && isWritable v && membersAreWritable es

end

mutual

/-- The literal form, however long its numerals are. -/
def literal : Value → Text
  | null => "None".toText
  | bool b => (if b then "True" else "False").toText
  | int n => Text.ofInt n
  | float x => x.literal
  | text t => literalText t
  | bytes bs => literalBytes bs
  | decimal d => "Decimal('".toText ++ d.text ++ "')".toText
  | dateTime t => literalDateTime t
  | list xs => "[".toText ++ commaSeparated (literalItems xs) ++ "]".toText
  | map es => "\x7b".toText ++ commaSeparated (literalMembers es) ++ "\x7d".toText

def literalItems : List Value → List Text
  | [] => []
  | v :: vs => literal v :: literalItems vs

def literalMembers : List (Value × Value) → List Text
  | [] => []
  | (k, v) :: es => (literal k ++ ": ".toText ++ literal v) :: literalMembers es

end

def literal? (v : Value) : Option Text := if v.isWritable then some v.literal else none

/-- The text shown for a value on its own, however long its numerals are. -/
def display : Value → Text
  | text t => t
  | decimal d => d.text
  | dateTime t => t.spacedText
  | v => v.literal

def display? (v : Value) : Option Text := if v.isWritable then some v.display else none

end SubscriptionClient.Value
