import SubscriptionClient.Number.Numeral
import SubscriptionClient.Proofs.Text.Codes

/-!
# Numerals

A numeral in decimal digits tells its number, and it can be read off from a text in which no further
digit follows. It is as long as the number is large.
-/

namespace SubscriptionClient

namespace Text

/-- Whether a text does not go on with a digit. -/
def EndsNumeral (t : Text) : Prop := EndsRun CodePoint.isAsciiDigit t

theorem endsNumeral_nil : EndsNumeral [] := endsRun_nil

theorem endsNumeral_cons {c : CodePoint} (h : c.isAsciiDigit = false) (t : Text) :
    EndsNumeral (c :: t) :=
  endsRun_cons h t

theorem ofNat_ne_nil (n : Nat) : ofNat n ≠ [] := by
  rw [ofNat, ne_eq, List.map_eq_nil_iff]
  exact Nat.toDigits_ne_nil

theorem isAsciiDigit_of_mem_ofNat {n : Nat} {c : CodePoint} (h : c ∈ ofNat n) :
    c.isAsciiDigit = true := by
  obtain ⟨d, hd, rfl⟩ := List.mem_map.mp h
  have hdigit := Nat.isDigit_of_mem_toDigits (by decide) (by decide) hd
  simp only [Char.isDigit, Bool.and_eq_true, decide_eq_true_eq] at hdigit
  exact decide_eq_true ⟨hdigit.1, hdigit.2⟩

theorem ofNat_inj {m n : Nat} (h : ofNat m = ofNat n) : m = n := by
  have hdigits : Nat.toDigits 10 m = Nat.toDigits 10 n :=
    List.map_injective_iff.mpr (fun _ _ => CodePoint.ofChar_inj.mp) h
  rw [← Nat.ofDigitChars_ten_toDigits (n := m), hdigits, Nat.ofDigitChars_ten_toDigits]

theorem length_ofNat_le_iff {n k : Nat} (hk : 0 < k) : (ofNat n).length ≤ k ↔ n < 10 ^ k := by
  rw [ofNat, List.length_map, Nat.length_toDigits_le_iff (by decide) hk]

def IsDigits (t : Text) : Prop := ∀ c ∈ t, c.isAsciiDigit = true

theorem isDigits_ofNat (n : Nat) : IsDigits (ofNat n) := fun _ hc => isAsciiDigit_of_mem_ofNat hc

theorem IsDigits.append {t u : Text} (ht : IsDigits t) (hu : IsDigits u) : IsDigits (t ++ u) :=
  List.forall_mem_append.mpr ⟨ht, hu⟩

theorem IsDigits.append_inj {t u r s : Text} (ht : IsDigits t) (hu : IsDigits u)
    (hr : EndsNumeral r) (hs : EndsNumeral s) (h : t ++ r = u ++ s) : t = u ∧ r = s :=
  run_append_inj ht hu hr hs h

theorem ofNat_append_inj {m n : Nat} {r s : Text} (hr : EndsNumeral r) (hs : EndsNumeral s)
    (h : ofNat m ++ r = ofNat n ++ s) : m = n := by
  obtain ⟨hnat, -⟩ := (isDigits_ofNat m).append_inj (isDigits_ofNat n) hr hs h
  exact ofNat_inj hnat

theorem ofNat_append_ne_minus (n : Nat) (r s : Text) : ofNat n ++ r ≠ "-".toText ++ s := by
  intro h
  obtain ⟨c, cs, hc⟩ := List.exists_cons_of_ne_nil (ofNat_ne_nil n)
  have hdigit := isAsciiDigit_of_mem_ofNat (n := n) (c := c) (by simp [hc])
  rw [hc, List.cons_append] at h
  rw [(List.cons.inj h).1] at hdigit
  exact absurd hdigit (by decide)

theorem ofInt_append_inj {m n : Int} {r s : Text} (hr : EndsNumeral r) (hs : EndsNumeral s)
    (h : ofInt m ++ r = ofInt n ++ s) : m = n := by
  cases m with
  | ofNat m =>
    cases n with
    | ofNat n => exact congrArg Int.ofNat (ofNat_append_inj hr hs h)
    | negSucc n =>
      rw [ofInt, ofInt, List.append_assoc] at h
      exact (ofNat_append_ne_minus m r _ h).elim
  | negSucc m =>
    cases n with
    | ofNat n =>
      rw [ofInt, ofInt, List.append_assoc] at h
      exact (ofNat_append_ne_minus n s _ h.symm).elim
    | negSucc n =>
      rw [ofInt, ofInt, List.append_assoc, List.append_assoc] at h
      have hnat := ofNat_append_inj hr hs (List.append_cancel_left h)
      rw [Nat.succ.inj hnat]

theorem ofInt_inj {m n : Int} (h : ofInt m = ofInt n) : m = n :=
  ofInt_append_inj endsNumeral_nil endsNumeral_nil (by rw [h])

/-! ## The value of digits -/

def valueOf (t : Text) : Nat := t.foldl (fun n c => 10 * n + (c.val - 48)) 0

theorem valueOf_ofNat (n : Nat) : valueOf (ofNat n) = n := by
  rw [valueOf, ofNat, List.foldl_map]
  exact Nat.ofDigitChars_ten_toDigits

theorem valueOf_zeros_append (k : Nat) (t : Text) :
    valueOf (List.replicate k (CodePoint.ofChar '0') ++ t) = valueOf t := by
  induction k with
  | zero => rfl
  | succ k ih =>
    rw [List.replicate_succ, List.cons_append]
    exact ih

end Text

/-! ## The limit -/

namespace Numeral

theorem isWritable_iff {n : Int} : isWritable n = true ↔ n.natAbs < 10 ^ digitLimit := by
  rw [isWritable, decide_eq_true_iff]
  exact Text.length_ofNat_le_iff (by decide)

/-- An integer of too many digits. -/
def huge : Int := 10 ^ 5000

theorem isWritable_huge : isWritable huge = false := by
  rw [← Bool.not_eq_true, isWritable_iff]
  decide +kernel

theorem foldl_digits_lt {base : Nat} {ds : List Nat} (h : ∀ d ∈ ds, d < base) (n : Nat) :
    ds.foldl (fun n d => n * base + d) n < (n + 1) * base ^ ds.length := by
  induction ds generalizing n with
  | nil => simp
  | cons d ds ih =>
    have hd := h d List.mem_cons_self
    calc (d :: ds).foldl (fun n d => n * base + d) n
        < (n * base + d + 1) * base ^ ds.length :=
          ih (fun e he => h e (List.mem_cons_of_mem d he)) _
      _ ≤ ((n + 1) * base) * base ^ ds.length :=
          Nat.mul_le_mul_right _ (by rw [Nat.add_one_mul]; omega)
      _ = (n + 1) * base ^ (d :: ds).length := by
          rw [List.length_cons, Nat.pow_succ', Nat.mul_assoc]

theorem ofDigits_lt {base : Nat} {ds : List Nat} (h : ∀ d ∈ ds, d < base) :
    ofDigits base ds < base ^ ds.length := by
  have hlt := foldl_digits_lt h 0
  rwa [Nat.zero_add, Nat.one_mul] at hlt

end Numeral

end SubscriptionClient
