import SubscriptionClient.Proofs.Text.NumericTexts

/-!
# Hexadecimal numerals

A hexadecimal numeral is a sign, a mark and digits, of which only the digits must be there. White
space may surround it, and single underscores may stand between the digits and after the mark. What
is read from a text is the value of the numeral that it is.
-/

namespace SubscriptionClient

/-! ## Characters of numerals -/

namespace CodePoint

variable {c : CodePoint}

theorem isWhiteSpace_eq_false_of_isSome (h : c.decimalValue?.isSome = true) :
    c.isWhiteSpace = false := by
  rw [← Bool.not_eq_true]
  intro hwhite
  have hblank := isBlank_of_isWhiteSpace hwhite
  rw [not_isBlank_of_isDigit (isDigit_of_isSome h)] at hblank
  cases hblank

end CodePoint

namespace Numeral

variable {value : CodePoint → Option Nat} {c d u : CodePoint} {s t : Text} {ds es : List Nat}
  {n : Int}

def underscore : CodePoint := CodePoint.ofChar '_'

theorem ne_of_isSome (hc : (value c).isSome = true) (hd : value d = none) : c ≠ d := by
  rintro rfl
  rw [hd] at hc
  cases hc

theorem isWhiteSpace_eq_false_of_hexValue? (h : (hexValue? c).isSome = true) :
    c.isWhiteSpace = false := by
  rw [hexValue?, Option.isSome_or, Bool.or_eq_true] at h
  rcases h with hdecimal | hletter
  · exact CodePoint.isWhiteSpace_eq_false_of_isSome hdecimal
  · have hwithin : c.within [(48, 57), (65, 70), (97, 102)] = true := by
      rw [Hex.digitValue?] at hletter
      simp only [CodePoint.within, List.any_cons, List.any_nil, Bool.or_false, Bool.or_eq_true,
        decide_eq_true_eq]
      split_ifs at hletter <;> first | omega | cases hletter
    exact CodePoint.within_eq_false_of_within (by decide) hwithin

theorem hexValue?_lt {k : Nat} (h : hexValue? c = some k) : k < 16 := by
  rcases Option.or_eq_some_iff.mp h with hdecimal | ⟨-, hletter⟩
  · exact (CodePoint.decimalValue?_lt hdecimal).trans (by decide)
  · rw [Hex.digitValue?] at hletter
    split_ifs at hletter <;> obtain rfl := Option.some.inj hletter <;> omega

/-! ## Digits -/

/-- Whether a text is these digits, with single underscores between some of them. -/
inductive Groups (value : CodePoint → Option Nat) : Text → List Nat → Prop where
  | last {c : CodePoint} {k : Nat} (hc : value c = some k) : Groups value [c] [k]
  | next {c : CodePoint} {k : Nat} {t : Text} {ds : List Nat} (hc : value c = some k)
    (ht : Groups value t ds) : Groups value (c :: t) (k :: ds)
  | group {c : CodePoint} {k : Nat} {t : Text} {ds : List Nat} (hc : value c = some k)
    (ht : Groups value t ds) : Groups value (c :: underscore :: t) (k :: ds)

namespace Groups

theorem exists_cons (h : Groups value t ds) : ∃ c r, t = c :: r ∧ (value c).isSome = true := by
  cases h with
  | last hc => exact ⟨_, _, rfl, by rw [hc]; rfl⟩
  | next hc => exact ⟨_, _, rfl, by rw [hc]; rfl⟩
  | group hc => exact ⟨_, _, rfl, by rw [hc]; rfl⟩

theorem isSome_or_eq (h : Groups value t ds) (hc : c ∈ t) :
    (value c).isSome = true ∨ c = underscore := by
  induction h with
  | last hd =>
    rw [List.mem_singleton.mp hc, hd]
    exact .inl rfl
  | next hd _ ih =>
    rcases List.mem_cons.mp hc with rfl | hmem
    · exact .inl (by rw [hd]; rfl)
    · exact ih hmem
  | group hd _ ih =>
    rcases List.mem_cons.mp hc with rfl | hmem
    · exact .inl (by rw [hd]; rfl)
    · exact (List.mem_cons.mp hmem).elim .inr ih

theorem append (hs : Groups value s ds) (ht : Groups value t es) :
    Groups value (s ++ t) (ds ++ es) := by
  induction hs with
  | last hc => exact .next hc ht
  | next hc _ ih => exact .next hc ih
  | group hc _ ih => exact .group hc ih

theorem length_le (h : Groups value t ds) : ds.length ≤ t.length := by
  induction h with
  | last => exact le_rfl
  | next _ _ ih => exact Nat.succ_le_succ ih
  | group _ _ ih => exact Nat.succ_le_succ (ih.trans (Nat.le_succ _))

theorem lt_of_mem {base k : Nat} (h : Groups value t ds)
    (hvalue : ∀ {c j}, value c = some j → j < base) (hk : k ∈ ds) : k < base := by
  induction h with
  | last hc => exact List.mem_singleton.mp hk ▸ hvalue hc
  | next hc _ ih | group hc _ ih =>
    rcases List.mem_cons.mp hk with rfl | hmem
    · exact hvalue hc
    · exact ih hmem

end Groups

theorem groupedDigits?_cons_underscore (t : Text) :
    groupedDigits? value (c :: underscore :: t) =
      (value c).bind fun k => (groupedDigits? value t).map (k :: ·) := by
  rw [groupedDigits?]
  simp only [underscore, ↓reduceIte]
  cases value c with
  | none => rfl
  | some k => cases groupedDigits? value t <;> rfl

/-- Digits are read exactly where they are. -/
theorem groups_iff (hvalue : value underscore = none) :
    Groups value t ds ↔ groupedDigits? value t = some ds := by
  constructor
  · intro h
    induction h with
    | last hc => rw [groupedDigits?, hc, Option.map_some]
    | next hc ht ih =>
      obtain ⟨u, r, rfl, hu⟩ := ht.exists_cons
      rw [groupedDigits?_cons_cons (ne_of_isSome hu hvalue), hc, ih]
      rfl
    | group hc _ ih =>
      rw [groupedDigits?_cons_underscore, hc, ih]
      rfl
  · intro h
    induction t using groupedDigits?.induct generalizing ds with
    | case1 => cases h
    | case2 c =>
      obtain ⟨k, hk, rfl⟩ := Option.map_eq_some_iff.mp h
      exact .last hk
    | case3 c u t ihgroup ihnext =>
      by_cases hu : u = underscore
      · rw [hu, groupedDigits?_cons_underscore, Option.bind_eq_some_iff] at h
        obtain ⟨k, hk, hrest⟩ := h
        obtain ⟨es, hes, rfl⟩ := Option.map_eq_some_iff.mp hrest
        exact hu ▸ .group hk (ihgroup hes)
      · rw [groupedDigits?_cons_cons hu, Option.bind_eq_some_iff] at h
        obtain ⟨k, hk, hrest⟩ := h
        obtain ⟨es, hes, rfl⟩ := Option.map_eq_some_iff.mp hrest
        exact .next hk (ihnext hes)

/-! ## Signs and marks -/

inductive Sign : Text → Bool → Prop where
  | absent : Sign [] false
  | plus : Sign [CodePoint.ofChar '+'] false
  | minus : Sign [CodePoint.ofChar '-'] true

/-- The mark of a hexadecimal numeral: a zero of any script and a letter. -/
inductive HexMark : Text → Prop where
  | absent : HexMark []
  | present {z x : CodePoint} (hz : z.decimalValue? = some 0)
    (hx : x = CodePoint.ofChar 'x' ∨ x = CodePoint.ofChar 'X') : HexMark [z, x]
  | underscored {z x : CodePoint} (hz : z.decimalValue? = some 0)
    (hx : x = CodePoint.ofChar 'x' ∨ x = CodePoint.ofChar 'X') : HexMark [z, x, underscore]

theorem exists_sign_readSign (t : Text) :
    ∃ sign, Sign sign (readSign t).1 ∧ sign ++ (readSign t).2 = t := by
  cases t with
  | nil => exact ⟨[], .absent, rfl⟩
  | cons c t =>
    rw [readSign]
    split_ifs with hminus hplus
    · exact ⟨_, .minus, by rw [hminus]; rfl⟩
    · exact ⟨_, .plus, by rw [hplus]; rfl⟩
    · exact ⟨[], .absent, rfl⟩

theorem exists_hexMark_dropHexMark (t : Text) :
    ∃ mark, HexMark mark ∧ mark ++ dropHexMark t = t := by
  fun_cases dropHexMark t with
  | case1 z x hzx => exact ⟨_, .underscored hzx.1 hzx.2, rfl⟩
  | case2 z x hzx => exact ⟨_, .present hzx.1 hzx.2, rfl⟩
  | case3 z x hzx => exact ⟨_, .present hzx.1 hzx.2, rfl⟩
  | case4 | case5 => exact ⟨[], .absent, rfl⟩

theorem Sign.readSign_append {sign : Text} {negative : Bool} (h : Sign sign negative)
    (hplus : t.head? ≠ some (CodePoint.ofChar '+'))
    (hminus : t.head? ≠ some (CodePoint.ofChar '-')) :
    readSign (sign ++ t) = (negative, t) := by
  cases h with
  | absent =>
    cases t with
    | nil => rfl
    | cons c t =>
      rw [List.nil_append, readSign, if_neg (mt (congrArg some) hminus),
        if_neg (mt (congrArg some) hplus)]
  | plus => rfl
  | minus => rfl

theorem HexMark.dropHexMark_append {mark core : Text} (h : HexMark mark)
    (hcore : Groups hexValue? core ds) : dropHexMark (mark ++ core) = core := by
  have hletter (x : CodePoint) (hx : x = CodePoint.ofChar 'x' ∨ x = CodePoint.ofChar 'X') :
      hexValue? x = none ∧ x ≠ underscore := by
    rcases hx with rfl | rfl <;> decide
  obtain ⟨c, r, rfl, hc⟩ := hcore.exists_cons
  cases h with
  | absent =>
    cases r with
    | nil => rfl
    | cons x r =>
      show (if _ then _ else _) = c :: x :: r
      refine if_neg fun hzx => ?_
      obtain ⟨hnone, hne⟩ := hletter x hzx.2
      rcases hcore.isSome_or_eq (c := x) (by simp) with hx | hx
      · exact ne_of_isSome hx hnone rfl
      · exact hne hx
  | present hz hx =>
    rw [List.cons_append, List.cons_append, List.nil_append, dropHexMark, if_pos ⟨hz, hx⟩]
    exact if_neg (ne_of_isSome hc (by decide))
  | underscored hz hx =>
    rw [List.cons_append, List.cons_append, List.cons_append, List.nil_append, dropHexMark,
      if_pos ⟨hz, hx⟩]
    exact if_pos rfl

/-! ## Hexadecimal numerals -/

/-- Whether a text is a hexadecimal numeral of this value. -/
inductive SpellsHex : Text → Int → Prop where
  | intro {before sign mark core after : Text} {negative : Bool} {ds : List Nat}
    (hbefore : ∀ c ∈ before, c.isWhiteSpace = true) (hsign : Sign sign negative)
    (hmark : HexMark mark) (hcore : Groups hexValue? core ds)
    (hafter : ∀ c ∈ after, c.isWhiteSpace = true) :
    SpellsHex (before ++ (sign ++ (mark ++ core)) ++ after) (signed negative (ofDigits 16 ds))

theorem isWhiteSpace_eq_false_of_mem {sign mark core : Text} {negative : Bool}
    (hsign : Sign sign negative) (hmark : HexMark mark) (hcore : Groups hexValue? core ds)
    (hc : c ∈ sign ++ (mark ++ core)) : c.isWhiteSpace = false := by
  simp only [List.mem_append] at hc
  rcases hc with hc | hc | hc
  · cases hsign with
    | absent => cases hc
    | plus | minus =>
      rw [List.mem_singleton.mp hc]
      decide
  · have hx (x : CodePoint) (hx : x = CodePoint.ofChar 'x' ∨ x = CodePoint.ofChar 'X') :
        x.isWhiteSpace = false := by
      rcases hx with rfl | rfl <;> decide
    cases hmark with
    | absent => cases hc
    | present hz hletter =>
      simp only [List.mem_cons, List.not_mem_nil, or_false] at hc
      rcases hc with rfl | rfl
      · exact CodePoint.isWhiteSpace_eq_false_of_isSome (by rw [hz]; rfl)
      · exact hx c hletter
    | underscored hz hletter =>
      simp only [List.mem_cons, List.not_mem_nil, or_false] at hc
      rcases hc with rfl | rfl | rfl
      · exact CodePoint.isWhiteSpace_eq_false_of_isSome (by rw [hz]; rfl)
      · exact hx c hletter
      · decide
  · rcases hcore.isSome_or_eq hc with hdigit | rfl
    · exact isWhiteSpace_eq_false_of_hexValue? hdigit
    · decide

theorem head?_mark_append {mark core : Text} (hmark : HexMark mark)
    (hcore : Groups hexValue? core ds) (hd : hexValue? d = none) :
    (mark ++ core).head? ≠ some d := by
  have hzero (z : CodePoint) (hz : z.decimalValue? = some 0) : (hexValue? z).isSome = true := by
    rw [hexValue?, hz]
    rfl
  obtain ⟨c, r, rfl, hc⟩ := hcore.exists_cons
  cases hmark with
  | absent => exact mt Option.some.inj (ne_of_isSome hc hd)
  | present hz _ | underscored hz _ => exact mt Option.some.inj (ne_of_isSome (hzero _ hz) hd)

/-- Hexadecimal numerals are read exactly where they are. -/
theorem spellsHex_iff : SpellsHex t n ↔ hexadecimal? t = some n := by
  constructor
  · rintro ⟨hbefore, hsign, hmark, hcore, hafter⟩
    obtain ⟨c, r, hcons, -⟩ := hcore.exists_cons
    have htrim := Text.trim_append hbefore hafter (by simp [hcons])
      fun c hc => isWhiteSpace_eq_false_of_mem hsign hmark hcore hc
    have hread := hsign.readSign_append (head?_mark_append hmark hcore (by decide))
      (head?_mark_append hmark hcore (by decide))
    simp only [hexadecimal?, htrim, hread, hmark.dropHexMark_append hcore,
      (groups_iff (by decide)).mp hcore, bind, Option.bind]
    rfl
  · intro h
    simp only [hexadecimal?, bind, Option.bind_eq_some_iff] at h
    obtain ⟨ds, hds, hn⟩ := h
    obtain ⟨before, after, ht, hbefore, hafter⟩ :=
      Text.exists_eq_append_trim CodePoint.isWhiteSpace t
    obtain ⟨sign, hsign, hsplit⟩ := exists_sign_readSign (t.trim CodePoint.isWhiteSpace)
    obtain ⟨mark, hmark, hmarked⟩ :=
      exists_hexMark_dropHexMark (readSign (t.trim CodePoint.isWhiteSpace)).2
    have hspells :=
      SpellsHex.intro hbefore hsign hmark ((groups_iff (by decide)).mpr hds) hafter
    rw [hmarked, hsplit, ← ht] at hspells
    exact Option.some.inj hn ▸ hspells

/-- Without a minus sign the value is one that the characters have room for. -/
theorem SpellsHex.exists_natCast (h : SpellsHex t n) (hminus : CodePoint.ofChar '-' ∉ t) :
    ∃ k : Nat, n = k ∧ k < 16 ^ t.length := by
  obtain @⟨before, sign, mark, core, after, negative, ds, -, hsign, -, hcore, -⟩ := h
  have hlength : ds.length ≤ (before ++ (sign ++ (mark ++ core)) ++ after).length := by
    have := hcore.length_le
    simp only [List.length_append]
    omega
  have hlt := ofDigits_lt fun d hd => hcore.lt_of_mem hexValue?_lt hd
  cases hsign with
  | absent | plus => exact ⟨_, rfl, hlt.trans_le (Nat.pow_le_pow_right (by decide) hlength)⟩
  | minus => exact absurd hminus (by simp)

/-! ## Numbers as they are written -/

theorem hexValue?_lowerDigit : ∀ k < 16, hexValue? (Hex.lowerDigit k) = some k := by decide

theorem ofDigits_concat (base : Nat) (ds : List Nat) (d : Nat) :
    ofDigits base (ds ++ [d]) = ofDigits base ds * base + d := by
  rw [ofDigits, List.foldl_append]
  rfl

theorem exists_groups_ofNat (width k : Nat) : ∃ ds,
    Groups hexValue? (Hex.ofNat (width + 1) k) ds ∧ ofDigits 16 ds = k % 16 ^ (width + 1) := by
  induction width generalizing k with
  | zero =>
    have hvalue := hexValue?_lowerDigit (k % 16) (Nat.mod_lt k (by decide))
    exact ⟨[k % 16], .last hvalue, by simp [ofDigits]⟩
  | succ width ih =>
    obtain ⟨ds, hds, hk⟩ := ih (k / 16)
    have hvalue := hexValue?_lowerDigit (k % 16) (Nat.mod_lt k (by decide))
    refine ⟨ds ++ [k % 16], hds.append (.last hvalue), ?_⟩
    rw [ofDigits_concat, hk, Nat.pow_succ' (n := width + 1), Nat.mod_mul]
    omega

theorem spellsHex_ofNat (width k : Nat) :
    SpellsHex (Hex.ofNat (width + 1) k) (k % 16 ^ (width + 1) : Nat) := by
  obtain ⟨ds, hds, hk⟩ := exists_groups_ofNat width k
  have hspells : SpellsHex ([] ++ ([] ++ ([] ++ Hex.ofNat (width + 1) k)) ++ [])
      (signed false (ofDigits 16 ds)) := .intro (by simp) .absent .absent hds (by simp)
  rwa [List.nil_append, List.nil_append, List.nil_append, List.append_nil, hk] at hspells

theorem isSome_hexValue?_of_mem_ofNat {width k : Nat} (h : c ∈ Hex.ofNat width k) :
    (hexValue? c).isSome = true := by
  induction width generalizing k with
  | zero => cases h
  | succ width ih =>
    rw [Hex.ofNat, List.mem_append, List.mem_singleton] at h
    rcases h with h | rfl
    · exact ih h
    · rw [hexValue?_lowerDigit (k % 16) (Nat.mod_lt k (by decide))]
      rfl

end Numeral

end SubscriptionClient
