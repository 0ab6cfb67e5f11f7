import Mathlib.Order.Nat
import SubscriptionClient.Number.Double

/-!
# Rounding to doubles

The quotient of two positive numbers is rounded at the one power of two that leaves it fifty-three
bits before the point. Where that power is known, the double of the quotient is known.
-/

namespace SubscriptionClient.Double

variable {n d m a p : Nat} {negative : Bool}

/-! ## Rounding to a whole number -/

/-- The result is within a half of the quotient, and even where it is a half away. -/
theorem roundHalfEven_spec (n : Nat) (hd : 0 < d) :
    2 * n ≤ 2 * (d * roundHalfEven n d) + d ∧ 2 * (d * roundHalfEven n d) ≤ 2 * n + d ∧
      (2 * n = 2 * (d * roundHalfEven n d) + d ∨ 2 * (d * roundHalfEven n d) = 2 * n + d →
        roundHalfEven n d % 2 = 0) := by
  have hdiv := Nat.div_add_mod n d
  have hmod := Nat.mod_lt n hd
  simp only [roundHalfEven]
  split
  · rw [Nat.mul_add_one]
    omega
  · omega

theorem le_roundHalfEven (hd : 0 < d) (h : d * m ≤ n) : m ≤ roundHalfEven n d := by
  have hquotient : m ≤ n / d := (Nat.le_div_iff_mul_le hd).mpr (by rwa [Nat.mul_comm])
  simp only [roundHalfEven]
  split <;> omega

/-- Rounding sees the quotient only. -/
theorem roundHalfEven_mul_left {k : Nat} (hk : 0 < k) (n d : Nat) :
    roundHalfEven (k * n) (k * d) = roundHalfEven n d := by
  have hlt : (2 * (k * (n % d)) > k * d) ↔ 2 * (n % d) > d := by
    rw [Nat.mul_left_comm]
    exact Nat.mul_lt_mul_left hk
  have heq : (2 * (k * (n % d)) = k * d) ↔ 2 * (n % d) = d := by
    rw [Nat.mul_left_comm]
    exact Nat.mul_right_inj hk.ne'
  simp only [roundHalfEven, Nat.mul_div_mul_left _ _ hk, Nat.mul_mod_mul_left, hlt, heq]

/-! ## The place of the last bit -/

theorem scale_neg (ha : 0 < a) (n d : Nat) : scale n d (-(a : Int)) = (n * 2 ^ a, d) := by
  obtain ⟨k, rfl⟩ := Nat.exists_eq_add_one.mpr ha
  rfl

theorem scale_le_iff (n d : Nat) {e : Int} (he : e = (p : Int) - a) :
    (scale n d e).2 ≤ (scale n d e).1 ↔ d * 2 ^ p ≤ n * 2 ^ a := by
  cases e with
  | ofNat k =>
    obtain rfl : p = k + a := by rw [Int.ofNat_eq_natCast] at he; omega
    rw [Nat.pow_add, ← Nat.mul_assoc]
    exact (Nat.mul_le_mul_right_iff (Nat.two_pow_pos a)).symm
  | negSucc k =>
    obtain rfl : a = k + 1 + p := by omega
    rw [Nat.pow_add, ← Nat.mul_assoc]
    exact (Nat.mul_le_mul_right_iff (Nat.two_pow_pos p)).symm

/-- The leading bits of two numbers bound the leading bit of their quotient from both sides. -/
theorem log2_add_of_bounds (hd : 0 < d) (hlow : d * 2 ^ 52 ≤ n * 2 ^ a)
    (hhigh : n * 2 ^ a < d * 2 ^ 53) :
    n.log2 + a = d.log2 + 52 ∨ n.log2 + a = d.log2 + 53 := by
  have hn : n ≠ 0 := by
    rintro rfl
    omega
  have hlower : 2 ^ (d.log2 + 52) < 2 ^ (n.log2 + 1 + a) := calc
    2 ^ (d.log2 + 52) = 2 ^ d.log2 * 2 ^ 52 := Nat.pow_add ..
    _ ≤ d * 2 ^ 52 := Nat.mul_le_mul_right _ (Nat.log2_self_le hd.ne')
    _ ≤ n * 2 ^ a := hlow
    _ < 2 ^ (n.log2 + 1) * 2 ^ a := Nat.mul_lt_mul_of_pos_right Nat.lt_log2_self (Nat.two_pow_pos a)
    _ = 2 ^ (n.log2 + 1 + a) := (Nat.pow_add ..).symm
  have hupper : 2 ^ (n.log2 + a) < 2 ^ (d.log2 + 1 + 53) := calc
    2 ^ (n.log2 + a) = 2 ^ n.log2 * 2 ^ a := Nat.pow_add ..
    _ ≤ n * 2 ^ a := Nat.mul_le_mul_right _ (Nat.log2_self_le hn)
    _ < d * 2 ^ 53 := hhigh
    _ ≤ 2 ^ (d.log2 + 1) * 2 ^ 53 := Nat.mul_le_mul_right _ Nat.lt_log2_self.le
    _ = 2 ^ (d.log2 + 1 + 53) := (Nat.pow_add ..).symm
  have h₁ := (Nat.pow_lt_pow_iff_right (by decide : 1 < 2)).mp hlower
  have h₂ := (Nat.pow_lt_pow_iff_right (by decide : 1 < 2)).mp hupper
  omega

theorem exponentOf_eq (ha : a ≤ 1074) (hd : 0 < d) (hlow : d * 2 ^ 52 ≤ n * 2 ^ a)
    (hhigh : n * 2 ^ a < d * 2 ^ 53) : exponentOf n d = -(a : Int) := by
  simp only [exponentOf]
  rcases log2_add_of_bounds hd hlow hhigh with hbits | hbits
  · rw [if_pos ((scale_le_iff n d (by omega)).mpr hlow)]
    omega
  · rw [if_neg (fun h => hhigh.not_ge ((scale_le_iff n d (by omega)).mp h))]
    omega

/-! ## The double of a quotient -/

/-- Where `n * 2 ^ a / d` has fifty-three bits before the point, also after rounding, that rounding
is the mantissa. -/
theorem ofRatio_eq_finite (ha : 0 < a) (ha' : a ≤ 1074) (hd : 0 < d)
    (hlow : d * 2 ^ 52 ≤ n * 2 ^ a) (hhigh : n * 2 ^ a < d * 2 ^ 53)
    (hround : roundHalfEven (n * 2 ^ a) d < 2 ^ 53) :
    ofRatio negative n d = finite negative (roundHalfEven (n * 2 ^ a) d) (-(a : Int)) := by
  have hn : n ≠ 0 := by
    rintro rfl
    omega
  have hmantissa : 2 ^ 52 ≤ roundHalfEven (n * 2 ^ a) d := le_roundHalfEven hd hlow
  have hexponent : ¬ 971 < -(a : Int) := by omega
  simp only [ofRatio, if_neg hn, exponentOf_eq ha' hd hlow hhigh, scale_neg ha]
  rw [if_neg hround.ne, if_neg hexponent, if_neg hmantissa.not_gt]

theorem ratio?_finite_neg (ha : 0 < a) (negative : Bool) (m : Nat) :
    (finite negative m (-(a : Int))).ratio? =
      some (if negative then -(m : Int) else m, 2 ^ a) := by
  obtain ⟨k, rfl⟩ := Nat.exists_eq_add_one.mpr ha
  rfl

end SubscriptionClient.Double
