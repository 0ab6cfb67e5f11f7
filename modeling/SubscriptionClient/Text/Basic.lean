/-!
# Text

A text is a list of Unicode code points. Lone surrogates are code points as well, so a text may
hold what no `String` can.
-/

namespace SubscriptionClient

/-- A Unicode code point; surrogates are included. -/
abbrev CodePoint := Fin 0x110000

instance neZeroCodePoints : @NeZero Nat Zero.ofOfNat0 0x110000 := Nat.instNeZeroSucc

abbrev Text := List CodePoint

instance lawfulBEqText : LawfulBEq Text := inferInstance

namespace CodePoint

theorem lt_of_char (c : Char) : c.toNat < 0x110000 := by
  rcases c.valid with h | h
  · exact Nat.lt_trans h (by decide)
  · exact h.2

def ofChar (c : Char) : CodePoint := ⟨c.toNat, lt_of_char c⟩

def isHighSurrogate (c : CodePoint) : Bool := decide (0xD800 ≤ c.val ∧ c.val < 0xDC00)

def isLowSurrogate (c : CodePoint) : Bool := decide (0xDC00 ≤ c.val ∧ c.val < 0xE000)

def isSurrogate (c : CodePoint) : Bool := decide (0xD800 ≤ c.val ∧ c.val < 0xE000)

theorem isSurrogate_eq_or (c : CodePoint) :
    c.isSurrogate = (c.isHighSurrogate || c.isLowSurrogate) := by
  simp only [isSurrogate, isHighSurrogate, isLowSurrogate, ← Bool.decide_or, decide_eq_decide]
  omega

def within (ranges : List (Nat × Nat)) (c : CodePoint) : Bool :=
  ranges.any fun r => decide (r.1 ≤ c.val ∧ c.val ≤ r.2)

end CodePoint

end SubscriptionClient

def String.toText (s : String) : SubscriptionClient.Text :=
  s.toList.map SubscriptionClient.CodePoint.ofChar

namespace SubscriptionClient.Text

/-- Decimal digits of a natural number, without leading zeros. -/
def ofNat (n : Nat) : Text := (Nat.toDigits 10 n).map CodePoint.ofChar

/-- Decimal digits after a sign, however many there are. -/
def ofInt : Int → Text
  | .ofNat n => ofNat n
  | .negSucc n => "-".toText ++ ofNat (n + 1)

/-- Decimal digits, padded on the left with zeros to at least `width`. -/
def ofNatPadded (width n : Nat) : Text :=
  let digits := ofNat n
  List.replicate (width - digits.length) (CodePoint.ofChar '0') ++ digits

/-- Two hexadecimal digits, `digit` giving the spelling of each. -/
def ofByte (digit : Nat → Char) (b : UInt8) : Text :=
  [CodePoint.ofChar (digit (b.toNat / 16)), CodePoint.ofChar (digit (b.toNat % 16))]

/-- The text with every occurrence of `pattern` removed, scanning from the left. -/
def remove (pattern : Text) : Text → Text
  | [] => []
  | c :: cs =>
    if pattern.isPrefixOf (c :: cs) && !pattern.isEmpty then
      remove pattern ((c :: cs).drop pattern.length)
    else c :: remove pattern cs
  termination_by t => t.length
  decreasing_by
    all_goals simp_wf
    rename_i h
    have : pattern ≠ [] := by
      intro hp
      simp [hp] at h
    have := List.length_pos_iff.mpr this
    omega

/-- The text without the members of a class at either end. -/
def trim (member : CodePoint → Bool) (t : Text) : Text :=
  ((t.dropWhile member).reverse.dropWhile member).reverse

end SubscriptionClient.Text
