import SubscriptionClient.Proofs.Number.Rounding
import SubscriptionClient.Request.Attribute

/-!
# Whole milliseconds

A time of whole milliseconds goes to the backend through a double of seconds and a double of
milliseconds. Both roundings are followed on the mantissa of the number: the second one misses it by
at most one unit, so cutting off gives the number or, where that unit is missing, its neighbour
towards zero. Which of the two it is depends on what the first rounding dropped.
-/

namespace SubscriptionClient.Attribute

open Double

/-- A mantissa of fifty-three bits that has a bit to spare. -/
structure IsMantissa (x : Nat) : Prop where
  le : 2 ^ 52 ≤ x
  lt : x < 2 ^ 53
  even : x % 2 = 0

/-- Whether a thousand times the double of a thousandth of the mantissa `x` rounds to less than `x`.
Where `512 * x / 1000` has fifty-three bits, that double is its rounding. A remainder below 500 is
dropped, and more than 256 is more than half of the 512 that make a unit of `x`. -/
def FallsShort (x : Nat) : Prop :=
  1000 * 2 ^ 52 ≤ 512 * x ∧ 256 < 512 * x % 1000 ∧ 512 * x % 1000 < 500

/-- The mantissa of `m`: its highest bit is moved to the place of `2 ^ 52`. -/
def mantissa (m : Nat) : Nat := m * 2 ^ (52 - m.log2)

def IsCutShort (m : Nat) : Prop := FallsShort (mantissa m)

instance (m : Nat) : Decidable (IsCutShort m) := by
  unfold IsCutShort FallsShort
  infer_instance

variable {m x a : Nat} {k : Int}

/-- Nothing is dropped at a multiple of an eighth of a second. -/
theorem not_isCutShort_of_dvd (h : 125 ∣ m) : ¬ IsCutShort m := by
  rintro ⟨-, hdropped, -⟩
  have hdvd : 1000 ∣ 512 * mantissa m :=
    Nat.mul_dvd_mul (by decide : 8 ∣ 512) (Nat.dvd_mul_right_of_dvd h _)
  rw [Nat.mod_eq_zero_of_dvd hdvd] at hdropped
  exact Nat.not_lt_zero _ hdropped

theorem isMantissa_mantissa (hm : m ≠ 0) (hlt : m < 2 ^ 52) : IsMantissa (mantissa m) := by
  have hlog : m.log2 < 52 := (Nat.log2_lt hm).mpr hlt
  have hsplit : m.log2 + (52 - m.log2) = 52 := by omega
  refine ⟨?_, ?_, ?_⟩
  · calc 2 ^ 52 = 2 ^ m.log2 * 2 ^ (52 - m.log2) := by rw [← Nat.pow_add, hsplit]
      _ ≤ m * 2 ^ (52 - m.log2) := Nat.mul_le_mul_right _ (Nat.log2_self_le hm)
  · calc m * 2 ^ (52 - m.log2) < 2 ^ (m.log2 + 1) * 2 ^ (52 - m.log2) :=
          Nat.mul_lt_mul_of_pos_right Nat.lt_log2_self (Nat.two_pow_pos _)
      _ = 2 ^ 53 := by rw [← Nat.pow_add]; congr 1; omega
  · obtain ⟨j, hj⟩ := Nat.exists_eq_add_one.mpr (Nat.sub_pos_of_lt hlog)
    rw [mantissa, hj, Nat.pow_succ, ← Nat.mul_assoc, Nat.mul_mod_left]

/-! ## The mantissas of the two doubles -/

/-- How many bits a mantissa takes on before a thousandth of it has fifty-three again. -/
def spareBits (x : Nat) : Nat := if 1000 * 2 ^ 52 ≤ 512 * x then 9 else 10

/-- The mantissa of a thousandth. -/
def thousandth (x : Nat) : Nat := roundHalfEven (x * 2 ^ spareBits x) 1000

/-- The mantissa of a thousand times that. -/
def restored (x : Nat) : Nat := roundHalfEven (thousandth x * 1000) (2 ^ spareBits x)

theorem spareBits_cases (x : Nat) :
    (spareBits x = 9 ∧ 1000 * 2 ^ 52 ≤ 512 * x) ∨ (spareBits x = 10 ∧ 512 * x < 1000 * 2 ^ 52) := by
  by_cases h : 1000 * 2 ^ 52 ≤ 512 * x
  · exact .inl ⟨if_pos h, h⟩
  · exact .inr ⟨if_neg h, Nat.lt_of_not_le h⟩

theorem thousandth_spec (x : Nat) :
    2 * (x * 2 ^ spareBits x) ≤ 2 * (1000 * thousandth x) + 1000 ∧
      2 * (1000 * thousandth x) ≤ 2 * (x * 2 ^ spareBits x) + 1000 := by
  obtain ⟨hbelow, habove, -⟩ := roundHalfEven_spec (x * 2 ^ spareBits x) (by decide : 0 < 1000)
  exact ⟨hbelow, habove⟩

theorem restored_of_fallsShort (h : FallsShort x) : restored x + 1 = x := by
  obtain ⟨hcoarse, hdropped, hhalf⟩ := h
  have hbits : spareBits x = 9 := if_pos hcoarse
  obtain ⟨hbelow, habove⟩ := thousandth_spec x
  obtain ⟨hbelow', habove', -⟩ :=
    roundHalfEven_spec (thousandth x * 1000) (Nat.two_pow_pos (spareBits x))
  rw [← restored, hbits] at hbelow' habove'
  rw [hbits] at hbelow habove
  have hfloor : thousandth x = 512 * x / 1000 := by omega
  omega

namespace IsMantissa

theorem scaled_bounds (hx : IsMantissa x) :
    1000 * 2 ^ 52 ≤ x * 2 ^ spareBits x ∧ x * 2 ^ spareBits x < 1000 * 2 ^ 53 := by
  obtain ⟨hlow, hhigh, -⟩ := hx
  rcases spareBits_cases x with ⟨hbits, h⟩ | ⟨hbits, h⟩ <;> rw [hbits] <;> omega

theorem thousandth_lt (hx : IsMantissa x) : thousandth x < 2 ^ 53 := by
  obtain ⟨hbelow, habove⟩ := thousandth_spec x
  obtain ⟨hlow, hhigh, -⟩ := hx
  rcases spareBits_cases x with ⟨hbits, h⟩ | ⟨hbits, h⟩ <;> rw [hbits] at hbelow habove <;> omega

/-- A thousandth of the least mantissa rounds up, so that a thousand times it is no less. -/
theorem thousandth_bounds (hx : IsMantissa x) :
    2 ^ spareBits x * 2 ^ 52 ≤ thousandth x * 1000 ∧
      thousandth x * 1000 < 2 ^ spareBits x * 2 ^ 53 := by
  obtain ⟨hbelow, habove⟩ := thousandth_spec x
  obtain ⟨hlow, hhigh, -⟩ := hx
  rcases spareBits_cases x with ⟨hbits, h⟩ | ⟨hbits, h⟩ <;> rw [hbits] at hbelow habove ⊢ <;> omega

/-- Otherwise no more than half a unit of `x` is dropped, and where it is just a half, `x` is the
even one of the two nearest; or less than a unit is added. -/
theorem restored_of_not_fallsShort (hx : IsMantissa x) (h : ¬ FallsShort x) :
    x ≤ restored x ∧ restored x ≤ x + 1 := by
  obtain ⟨hbelow, habove⟩ := thousandth_spec x
  obtain ⟨hbelow', habove', htie⟩ :=
    roundHalfEven_spec (thousandth x * 1000) (Nat.two_pow_pos (spareBits x))
  have heven := hx.even
  rw [← restored] at hbelow' habove' htie
  rcases spareBits_cases x with ⟨hbits, hcoarse⟩ | ⟨hbits, hfine⟩
  · rw [hbits] at hbelow habove hbelow' habove' htie
    have hdropped : 512 * x % 1000 ≤ 256 ∨ 500 ≤ 512 * x % 1000 := by
      unfold FallsShort at h
      omega
    rcases hdropped with hdropped | hdropped
    · have hfloor : thousandth x = 512 * x / 1000 := by omega
      omega
    · have hceil : thousandth x = 512 * x / 1000 + 1 := by omega
      omega
  · rw [hbits] at hbelow habove hbelow' habove' htie
    omega

theorem restored_lt (hx : IsMantissa x) : restored x < 2 ^ 53 := by
  have heven := hx.even
  have hlt := hx.lt
  by_cases h : FallsShort x
  · have := restored_of_fallsShort h
    omega
  · have := hx.restored_of_not_fallsShort h
    omega

end IsMantissa

/-- The unit of the mantissa of `m` is less than one, so only a missing unit changes the whole
part. -/
theorem restored_div (hm : m ≠ 0) (hlt : m < 2 ^ 52) :
    restored (mantissa m) / 2 ^ (52 - m.log2) = if IsCutShort m then m - 1 else m := by
  have hlog : m.log2 < 52 := (Nat.log2_lt hm).mpr hlt
  have hunit : 1 < 2 ^ (52 - m.log2) := Nat.one_lt_two_pow (by omega)
  split
  · rename_i h
    have hr : restored (mantissa m) + 1 = m * 2 ^ (52 - m.log2) := restored_of_fallsShort h
    obtain ⟨j, rfl⟩ := Nat.exists_eq_add_one_of_ne_zero hm
    rw [Nat.add_one_mul] at hr
    exact Nat.div_eq_of_lt_le (by rw [Nat.add_sub_cancel]; omega)
      (by rw [Nat.add_sub_cancel, Nat.add_one_mul]; omega)
  · rename_i h
    obtain ⟨hlow, hhigh⟩ := (isMantissa_mantissa hm hlt).restored_of_not_fallsShort h
    rw [mantissa] at hlow hhigh
    exact Nat.div_eq_of_lt_le hlow (by rw [Nat.add_one_mul, mantissa]; omega)

/-! ## The two doubles -/

theorem ofRatio_microsPerSecond (hm : m ≠ 0) (hlt : m < 2 ^ 52) (negative : Bool) :
    ofRatio negative (1000 * m) DateTime.microsPerSecond =
      .finite negative (thousandth (mantissa m))
        (-((52 - m.log2 + spareBits (mantissa m) : Nat) : Int)) := by
  have hx := isMantissa_mantissa hm hlt
  obtain ⟨hlow, hhigh⟩ := hx.scaled_bounds
  have hbits : 0 < spareBits (mantissa m) ∧ spareBits (mantissa m) ≤ 10 := by
    rcases spareBits_cases (mantissa m) with ⟨h, -⟩ | ⟨h, -⟩ <;> omega
  have hmicros : DateTime.microsPerSecond = 1000 * 1000 := rfl
  have hscaled : 1000 * m * 2 ^ (52 - m.log2 + spareBits (mantissa m)) =
      1000 * (mantissa m * 2 ^ spareBits (mantissa m)) := by
    simp only [mantissa, Nat.pow_add, Nat.mul_assoc]
  have hround : roundHalfEven (1000 * m * 2 ^ (52 - m.log2 + spareBits (mantissa m)))
      DateTime.microsPerSecond = thousandth (mantissa m) := by
    rw [hscaled, hmicros]
    exact roundHalfEven_mul_left (by decide) _ _
  rw [ofRatio_eq_finite (a := 52 - m.log2 + spareBits (mantissa m)) (by omega) (by omega)
    (by decide), hround]
  · rw [hscaled, hmicros]
    omega
  · rw [hscaled, hmicros]
    omega
  · rw [hround]
    exact hx.thousandth_lt

theorem secondsOfMicros_eq (hk : k ≠ 0) (hlt : k.natAbs < 2 ^ 52) :
    secondsOfMicros (1000 * k) = .finite (decide (k < 0)) (thousandth (mantissa k.natAbs))
      (-((52 - k.natAbs.log2 + spareBits (mantissa k.natAbs) : Nat) : Int)) := by
  have hsign : decide (1000 * k < 0) = decide (k < 0) := by
    rw [decide_eq_decide]
    omega
  have habs : (1000 * k).natAbs = 1000 * k.natAbs := Int.natAbs_mul 1000 k
  rw [secondsOfMicros, hsign, habs, ofRatio_microsPerSecond (Int.natAbs_ne_zero.mpr hk) hlt]

theorem timesThousand_eq (hx : IsMantissa x) (ha : 0 < a) (ha' : a ≤ 52) (negative : Bool) :
    timesThousand (.finite negative (thousandth x) (-((a + spareBits x : Nat) : Int))) =
      .finite negative (restored x) (-(a : Int)) := by
  obtain ⟨hlow, hhigh⟩ := hx.thousandth_bounds
  have hpos : 0 < thousandth x := by
    have := Nat.two_pow_pos (spareBits x)
    omega
  have hunits : ∀ b, 2 ^ (a + spareBits x) * b = 2 ^ a * (2 ^ spareBits x * b) := fun b => by
    rw [Nat.pow_add, Nat.mul_assoc]
  have hround : roundHalfEven (thousandth x * 1000 * 2 ^ a) (2 ^ (a + spareBits x)) =
      restored x := by
    rw [Nat.pow_add, Nat.mul_comm _ (2 ^ a)]
    exact roundHalfEven_mul_left (Nat.two_pow_pos a) _ _
  have hratio : ofRatio negative (thousandth x * 1000) (2 ^ (a + spareBits x)) =
      .finite negative (restored x) (-(a : Int)) := by
    rw [ofRatio_eq_finite ha (by omega) (Nat.two_pow_pos _), hround]
    · rw [hunits, Nat.mul_comm _ (2 ^ a)]
      exact Nat.mul_le_mul_left _ hlow
    · rw [hunits, Nat.mul_comm _ (2 ^ a)]
      exact Nat.mul_lt_mul_of_pos_left hhigh (Nat.two_pow_pos a)
    · rw [hround]
      exact hx.restored_lt
  have hsign : decide ((if negative then -(thousandth x : Int) else thousandth x) < 0) = negative ∧
      (if negative then -(thousandth x : Int) else thousandth x).natAbs = thousandth x := by
    cases negative <;> simp [hpos]
  rw [← hratio, timesThousand, ratio?_finite_neg (by omega)]
  simp only [hsign]

theorem truncate_finite_neg (ha : 0 < a) (negative : Bool) (r : Nat) :
    truncate (.finite negative r (-(a : Int))) =
      if negative then -((r / 2 ^ a : Nat) : Int) else ((r / 2 ^ a : Nat) : Int) := by
  rw [truncate, ratio?_finite_neg ha]
  cases negative
  · exact Int.ofNat_tdiv r (2 ^ a)
  · exact (Int.neg_tdiv _ _).trans (congrArg Neg.neg (Int.ofNat_tdiv r (2 ^ a)))

theorem millisOfMicros_zero : millisOfMicros 0 = 0 := by decide +kernel

/-- Cutting off leaves the milliseconds or their neighbour towards zero. -/
theorem millisOfMicros_eq (hlt : k.natAbs < 2 ^ 52) :
    millisOfMicros (1000 * k) = if IsCutShort k.natAbs then k - k.sign else k := by
  by_cases hk : k = 0
  · rw [hk, Int.mul_zero, millisOfMicros_zero, Int.sign_zero, Int.sub_zero, ite_self]
  have hm : k.natAbs ≠ 0 := Int.natAbs_ne_zero.mpr hk
  have hlog : k.natAbs.log2 < 52 := (Nat.log2_lt hm).mpr hlt
  rw [millisOfMicros, secondsOfMicros_eq hk hlt, timesThousand_eq (isMantissa_mantissa hm hlt)
    (by omega) (by omega), truncate_finite_neg (by omega), restored_div hm hlt]
  rcases Int.lt_or_lt_of_ne hk with hneg | hpos
  · rw [Int.sign_eq_neg_one_of_neg hneg, if_pos (decide_eq_true hneg)]
    split <;> omega
  · rw [Int.sign_eq_one_of_pos hpos, if_neg (by simpa using Int.le_of_lt hpos)]
    split <;> omega

/-! ## The value that is sent -/

/-- The years 1 to 9999 are less than `2 ^ 52` milliseconds away. -/
theorem natAbs_lt_of_isSome (h : (DateTime.ofEpochMicros? (1000 * k)).isSome) :
    k.natAbs < 2 ^ 52 := by
  have hfirst : (Date.mk 1 1 1).dayNumber = -719162 := by decide
  have hlast : (Date.mk 9999 12 31).dayNumber = 2932896 := by decide
  have hday : (DateTime.microsPerDay : Int) = 86400000000 := by decide
  simp only [DateTime.ofEpochMicros?, hfirst, hlast, hday, Option.isSome_ite] at h
  omega

variable {a : Attribute}

theorem toValue_eq_iff (n : Int) :
    a.toValue = .record [("value", a.value), ("updated_at_ms", .int n)] ↔
      millisOfMicros a.setTime = n := by
  constructor
  · intro h
    simpa [toValue, Value.record] using h
  · rintro rfl
    rfl

/-- The time of an attribute arrives exactly, or one millisecond too near to the epoch. -/
theorem toValue_exact_iff (hk : a.setTime = 1000 * k)
    (h : (DateTime.ofEpochMicros? a.setTime).isSome) :
    (a.toValue = .record [("value", a.value), ("updated_at_ms", .int k)] ↔
        ¬ IsCutShort k.natAbs) ∧
      (IsCutShort k.natAbs →
        a.toValue = .record [("value", a.value), ("updated_at_ms", .int (k - k.sign))]) := by
  rw [hk] at h
  have hmillis := millisOfMicros_eq (natAbs_lt_of_isSome h)
  simp only [toValue_eq_iff, hk, hmillis]
  by_cases hcut : IsCutShort k.natAbs
  · have hsign : k.sign ≠ 0 := by
      rintro hzero
      rw [Int.sign_eq_zero_iff_zero.mp hzero] at hcut
      exact not_isCutShort_of_dvd (Nat.dvd_zero 125) hcut
    simp only [hcut, if_true, not_true_eq_false, iff_false, true_imp_iff, and_true]
    omega
  · simp only [hcut, if_false, not_false_eq_true, false_imp_iff, and_true]

/-- Half a second past the start of 2020 arrives; the first millisecond of June 2004 is lost. -/
theorem half_second_arrives :
    Attribute.toValue ⟨"a".toText, .null, 1577836800500000⟩ =
        .record [("value", .null), ("updated_at_ms", .int 1577836800500)] ∧
      Attribute.toValue ⟨"a".toText, .null, 1086048000001000⟩ =
        .record [("value", .null), ("updated_at_ms", .int 1086048000000)] :=
  ⟨(toValue_exact_iff (a := ⟨"a".toText, .null, 1577836800500000⟩) (k := 1577836800500) (by decide)
      (by decide +kernel)).1.mpr (by decide +kernel),
    (toValue_exact_iff (a := ⟨"a".toText, .null, 1086048000001000⟩) (k := 1086048000001) (by decide)
      (by decide +kernel)).2 (by decide +kernel)⟩

/-- The first thousand and one milliseconds count as a thousand. -/
theorem millisecond_is_lost : (DateTime.ofEpochMicros? (1000 * 1001)).isSome ∧
    Attribute.toValue ⟨"a".toText, .null, 1000 * 1001⟩ ≠
      .record [("value", .null), ("updated_at_ms", .int 1001)] := by
  refine ⟨by decide +kernel, fun h => ?_⟩
  have hmillis := (toValue_eq_iff (a := ⟨"a".toText, .null, 1000 * 1001⟩) 1001).mp h
  exact absurd hmillis (by decide +kernel)

end SubscriptionClient.Attribute
