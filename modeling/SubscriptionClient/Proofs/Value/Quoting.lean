import SubscriptionClient.Proofs.Text.Clean
import SubscriptionClient.Value.Json

/-!
# Quoted texts

A quoted text is ASCII. It spells a text unit by unit of UTF-16, every unit in a way that no other
begins with, so that a clean text can be read off.
-/

namespace SubscriptionClient.Json

open Text Value

/-- The escape of a UTF-16 unit. -/
def escapeUnit (u : Nat) : Text :=
  match shortEscape? u with
  | some mark => [backslash, CodePoint.ofChar mark]
  | none =>
    if 32 ≤ u ∧ u < 127 then [Fin.ofNat _ u] else hexEscape 'u' 4 u

theorem shortEscape?_eq_none {u : Nat} (h : 93 ≤ u) : shortEscape? u = none := by
  unfold shortEscape?
  repeat rw [if_neg (by omega)]

theorem escapeUnit_of_le {u : Nat} (h : 127 ≤ u) : escapeUnit u = hexEscape 'u' 4 u := by
  rw [escapeUnit, shortEscape?_eq_none (by omega)]
  exact if_neg (by omega)

theorem escapePoint_eq (c : CodePoint) : escapePoint c = (Utf16.ofPoint c).flatMap escapeUnit := by
  by_cases hc : c.val < 0x10000
  · have hself : (Fin.ofNat _ c.val : CodePoint) = c := Fin.ext (Nat.mod_eq_of_lt c.isLt)
    have hunits (f : Nat → Text) : (Utf16.ofPoint c).flatMap f = f c.val := by
      rw [Utf16.ofPoint, if_pos hc, List.flatMap_singleton]
    cases hs : shortEscape? c.val with
    | some mark => simp only [escapePoint, escapeUnit, hunits, hs]
    | none => simp only [escapePoint, escapeUnit, hunits, hs, hself]
  · rw [escapePoint, shortEscape?_eq_none (by omega)]
    dsimp only
    rw [if_neg (by omega)]
    refine List.flatMap_congr fun u hu => (escapeUnit_of_le ?_).symm
    rw [Utf16.ofPoint, if_neg hc] at hu
    simp only [List.mem_cons, List.not_mem_nil, or_false] at hu
    omega

theorem quote_eq (t : Text) : quote t =
    CodePoint.ofChar '"' :: ((Utf16.encode t).flatMap escapeUnit ++ [CodePoint.ofChar '"']) := by
  rw [quote, Utf16.encode, List.flatMap_assoc, List.cons_append]
  simp only [← escapePoint_eq]

/-- The three kinds of escapes. -/
theorem escapeUnit_cases (u : Nat) :
    (∃ mark, shortEscape? u = some mark ∧ escapeUnit u = [backslash, CodePoint.ofChar mark]) ∨
      (u < 127 ∧ u ≠ 34 ∧ u ≠ 92 ∧ escapeUnit u = [Fin.ofNat _ u]) ∨
      escapeUnit u = hexEscape 'u' 4 u := by
  cases h : shortEscape? u with
  | some mark => exact .inl ⟨mark, rfl, by rw [escapeUnit, h]⟩
  | none =>
    by_cases hu : 32 ≤ u ∧ u < 127
    · refine .inr (.inl ⟨hu.2, ?_, ?_, by rw [escapeUnit, h]; exact if_pos hu⟩)
      · rintro rfl
        exact absurd h (by decide)
      · rintro rfl
        exact absurd h (by decide)
    · exact .inr (.inr (by rw [escapeUnit, h]; exact if_neg hu))

/-- The unit that a mark stands for. -/
def unitOfMark (mark : Char) : Nat :=
  if mark = 'b' then 8
  else if mark = 't' then 9
  else if mark = 'n' then 10
  else if mark = 'f' then 12
  else if mark = 'r' then 13
  else if mark = '"' then 34
  else if mark = '\\' then 92
  else 0

theorem unitOfMark_eq {u : Nat} {mark : Char} (h : shortEscape? u = some mark) :
    u = unitOfMark mark := by
  unfold shortEscape? at h
  repeat' split at h
  all_goals
    cases h
    try assumption

theorem shortEscape?_inj {u v : Nat} {mark : Char} (hu : shortEscape? u = some mark)
    (hv : shortEscape? v = some mark) : u = v :=
  (unitOfMark_eq hu).trans (unitOfMark_eq hv).symm

theorem shortEscape?_ne_u {u : Nat} : shortEscape? u ≠ some 'u' := by
  intro h
  obtain rfl := unitOfMark_eq h
  exact absurd h (by decide)

theorem ofNat_ne_backslash {u : Nat} (hlt : u < 127) (hne : u ≠ 92) :
    (Fin.ofNat _ u : CodePoint) ≠ backslash := by
  intro h
  have hval := congrArg Fin.val h
  have hmod : u % 0x110000 = 92 := hval
  omega

theorem isPrefixFree_escapeUnit : IsPrefixFree (fun u => u < 0x10000) escapeUnit := by
  intro u v r s hu hv h
  rcases escapeUnit_cases u with ⟨m, hm, hcode⟩ | ⟨hlt, -, hne, hcode⟩ | hcode <;>
    rcases escapeUnit_cases v with ⟨m', hm', hcode'⟩ | ⟨hlt', -, hne', hcode'⟩ | hcode' <;>
    rw [hcode, hcode'] at h
  · have hmark := CodePoint.ofChar_inj.mp (List.cons.inj (List.cons.inj h).2).1
    exact shortEscape?_inj hm (hmark ▸ hm')
  · exact (ofNat_ne_backslash hlt' hne' (List.cons.inj h).1.symm).elim
  · have hmark := CodePoint.ofChar_inj.mp (List.cons.inj (List.cons.inj h).2).1
    exact (shortEscape?_ne_u (hmark ▸ hm)).elim
  · exact (ofNat_ne_backslash hlt hne (List.cons.inj h).1).elim
  · have hval := congrArg Fin.val (List.cons.inj h).1
    have hmod : u % 0x110000 = v % 0x110000 := hval
    omega
  · exact (ofNat_ne_backslash hlt hne (List.cons.inj h).1).elim
  · have hmark := CodePoint.ofChar_inj.mp (List.cons.inj (List.cons.inj h).2).1
    exact (shortEscape?_ne_u (hmark ▸ hm')).elim
  · exact (ofNat_ne_backslash hlt' hne' (List.cons.inj h).1.symm).elim
  · have hdigits := (List.cons.inj (List.cons.inj h).2).2
    exact Hex.ofNat_inj hu hv (List.append_inj hdigits (by simp)).1

theorem isStop_quotationMark (r : Text) :
    IsStop (fun u => u < 0x10000) escapeUnit (CodePoint.ofChar '"' :: r) := by
  refine isStop_cons ?_ ?_ r
  · intro u _ hnil
    rcases escapeUnit_cases u with ⟨m, -, hcode⟩ | ⟨-, -, -, hcode⟩ | hcode <;>
      simp [hcode, hexEscape] at hnil
  · intro u _ hhead
    rcases escapeUnit_cases u with ⟨m, -, hcode⟩ | ⟨hlt, hne, -, hcode⟩ | hcode <;>
      rw [hcode] at hhead
    · exact absurd (Option.some.inj hhead) (by decide)
    · have hval := congrArg Fin.val (Option.some.inj hhead)
      have hmod : u % 0x110000 = 34 := hval
      omega
    · exact absurd (Option.some.inj hhead) (by decide)

theorem quote_append_inj {t u r s : Text} (ht : t.IsClean) (hu : u.IsClean)
    (h : quote t ++ r = quote u ++ s) : t = u := by
  rw [quote_eq, quote_eq, List.cons_append, List.cons_append, List.append_assoc,
    List.append_assoc] at h
  have hunits (t : Text) : ∀ u ∈ Utf16.encode t, u < 0x10000 := by
    intro u hu
    obtain ⟨c, -, hc⟩ := List.mem_flatMap.mp hu
    exact Utf16.lt_of_mem_ofPoint hc
  have hencode := (isPrefixFree_escapeUnit.flatMap_append_inj (isStop_quotationMark r)
    (isStop_quotationMark s) (hunits t) (hunits u) (List.cons.inj h).2).1
  exact Utf16.encode_inj ht hu hencode

/-! ## Quoted texts are ASCII -/

theorem isAscii_hexEscape (u : Nat) : IsAscii (hexEscape 'u' 4 u) := by
  have hdigit (n : Nat) : (Hex.lowerDigit (n % 16)).val < 128 := by
    rw [Hex.val_lowerDigit (Nat.mod_lt _ (by decide))]
    split <;> omega
  simp only [hexEscape, Hex.ofNat, List.nil_append, List.cons_append, IsAscii,
    List.forall_mem_cons, List.not_mem_nil, false_implies, implies_true, and_true, hdigit]
  decide

theorem shortEscape?_val {u : Nat} {mark : Char} (h : shortEscape? u = some mark) :
    (CodePoint.ofChar mark).val < 128 := by
  unfold shortEscape? at h
  repeat' split at h
  all_goals
    cases h
    try decide

theorem isAscii_escapeUnit (u : Nat) : IsAscii (escapeUnit u) := by
  rcases escapeUnit_cases u with ⟨m, hm, hcode⟩ | ⟨hlt, -, -, hcode⟩ | hcode <;> rw [hcode]
  · exact List.forall_mem_cons.mpr ⟨by decide, List.forall_mem_cons.mpr
      ⟨shortEscape?_val hm, nofun⟩⟩
  · refine List.forall_mem_cons.mpr ⟨?_, nofun⟩
    show u % 0x110000 < 128
    omega
  · exact isAscii_hexEscape u

theorem isAscii_quote (t : Text) : IsAscii (quote t) := by
  rw [quote_eq]
  refine List.forall_mem_cons.mpr ⟨by decide, IsAscii.append ?_ ?_⟩
  · exact isAscii_flatMap fun u _ => isAscii_escapeUnit u
  · exact List.forall_mem_cons.mpr ⟨by decide, nofun⟩

end SubscriptionClient.Json
