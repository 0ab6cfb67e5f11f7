import Mathlib.Data.Nat.Digits.Defs
import SubscriptionClient.Body.Contracts
import SubscriptionClient.Proofs.Text.Numerals
import SubscriptionClient.Proofs.Text.Reading

/-!
# Numeric texts

A code may come as text, and two readings of such text stand side by side. What looks numeric is
any digits after minus signs, inside blanks; what can be read is decimal digits after at most one
minus sign, inside white space. An integer that is not too long is written as such a text.
-/

namespace SubscriptionClient

namespace Text

variable {q : CodePoint → Bool} {before core after : Text}

/-! ## Trimming -/

theorem trim_append (hbefore : ∀ c ∈ before, q c = true) (hafter : ∀ c ∈ after, q c = true)
    (hne : core ≠ []) (hcore : ∀ c ∈ core, q c = false) :
    trim q (before ++ core ++ after) = core := by
  have hleft : (before ++ core ++ after).dropWhile q = core ++ after := by
    obtain ⟨c, cs, rfl⟩ := List.exists_cons_of_ne_nil hne
    rw [List.append_assoc]
    exact dropWhile_append_of_endsRun hbefore (endsRun_cons (hcore c List.mem_cons_self) _)
  have hright : (core ++ after).reverse.dropWhile q = core.reverse := by
    rw [List.reverse_append]
    refine dropWhile_append_of_endsRun (fun c hc => hafter c (List.mem_reverse.mp hc)) ?_
    exact fun c hc => hcore c (List.mem_reverse.mp (List.mem_of_head? hc))
  rw [trim, hleft, hright, List.reverse_reverse]

theorem exists_eq_append_trim (q : CodePoint → Bool) (t : Text) : ∃ before after,
    t = before ++ trim q t ++ after ∧ (∀ c ∈ before, q c = true) ∧ ∀ c ∈ after, q c = true := by
  refine ⟨t.takeWhile q, ((t.dropWhile q).reverse.takeWhile q).reverse, ?_, ?_, ?_⟩
  · rw [trim, List.append_assoc, ← List.reverse_append, List.takeWhile_append_dropWhile,
      List.reverse_reverse, List.takeWhile_append_dropWhile]
  · exact fun c hc => List.mem_takeWhile_imp hc
  · exact fun c hc => List.mem_takeWhile_imp (List.mem_reverse.mp hc)

end Text

/-! ## Classes of code points -/

namespace CodePoint

variable {c : CodePoint} {rs ss : List (Nat × Nat)}

theorem within_eq_false_of_within (hdisjoint : ∀ r ∈ rs, ∀ s ∈ ss, r.2 < s.1 ∨ s.2 < r.1)
    (h : c.within rs = true) : c.within ss = false := by
  obtain ⟨r, hr, hcr⟩ := List.any_eq_true.mp h
  have hrange := of_decide_eq_true hcr
  refine List.any_eq_false.mpr fun s hs hcs => ?_
  have hrange' := of_decide_eq_true hcs
  rcases hdisjoint r hr s hs with hlt | hlt <;> omega

def blankRanges : List (Nat × Nat) := whiteSpaceRanges ++ [(0x1c, 0x1f)]

theorem isBlank_eq_within (c : CodePoint) : c.isBlank = c.within blankRanges := by
  rw [isBlank, isWhiteSpace, within, within, within, blankRanges, List.any_append]

def digitRanges : List (Nat × Nat) := decimalZeros.map (fun z => (z, z + 9)) ++ specialDigitRanges

theorem isDigit_eq_within (c : CodePoint) : c.isDigit = c.within digitRanges := by
  have hdecimal : c.decimalValue?.isSome = c.within (decimalZeros.map fun z => (z, z + 9)) := by
    rw [Bool.eq_iff_iff, decimalValue?, Option.isSome_map, List.find?_isSome, within, List.any_map,
      List.any_eq_true]
    refine exists_congr fun z => and_congr_right fun _ => ?_
    simp only [Function.comp, decide_eq_true_eq]
    omega
  rw [isDigit, hdecimal, within, within, within, digitRanges, List.any_append]

theorem isDigit_of_isSome (h : c.decimalValue?.isSome = true) : c.isDigit = true := by
  simp [isDigit, h]

theorem not_isBlank_of_isDigit (h : c.isDigit = true) : c.isBlank = false := by
  rw [isDigit_eq_within] at h
  rw [isBlank_eq_within]
  exact within_eq_false_of_within (by decide) h

theorem ne_of_isDigit {d : CodePoint} (hc : c.isDigit = true) (hd : d.isDigit = false) : c ≠ d := by
  rintro rfl
  rw [hc] at hd
  cases hd

end CodePoint

/-! ## Runs of digits -/

namespace Numeral

variable {value : CodePoint → Option Nat} {c u : CodePoint} {t : Text} {ds : List Nat}

/-- Without a plus sign the only sign is minus. -/
theorem exists_replicate_append_readSign (hplus : CodePoint.ofChar '+' ∉ t) :
    ∃ k ≤ 1, List.replicate k Scalar.minus ++ (readSign t).2 = t := by
  cases t with
  | nil => exact ⟨0, Nat.zero_le 1, rfl⟩
  | cons c t =>
    rw [List.mem_cons, not_or] at hplus
    rw [readSign, if_neg (Ne.symm hplus.1)]
    by_cases hminus : c = CodePoint.ofChar '-'
    · rw [if_pos hminus]
      exact ⟨1, le_rfl, by rw [hminus]; rfl⟩
    · rw [if_neg hminus]
      exact ⟨0, Nat.zero_le 1, rfl⟩

theorem groupedDigits?_cons_cons (hu : u ≠ CodePoint.ofChar '_') (t : Text) :
    groupedDigits? value (c :: u :: t) =
      (value c).bind fun d => (groupedDigits? value (u :: t)).map (d :: ·) := by
  rw [groupedDigits?]
  simp only [hu, ↓reduceIte]
  cases value c with
  | none => rfl
  | some d => cases groupedDigits? value (u :: t) <;> rfl

/-- Without underscores every character must be a digit. -/
theorem groupedDigits?_eq_some_iff (hne : t ≠ []) (hungrouped : CodePoint.ofChar '_' ∉ t) :
    groupedDigits? value t = some ds ↔
      (∀ c ∈ t, (value c).isSome = true) ∧ t.filterMap value = ds := by
  induction t using groupedDigits?.induct generalizing ds with
  | case1 => exact (hne rfl).elim
  | case2 c =>
    rw [groupedDigits?]
    cases hc : value c <;> simp [hc]
  | case3 c u t _ ih =>
    have hu : u ≠ CodePoint.ofChar '_' := by
      rintro rfl
      exact hungrouped (by simp)
    have htail (ds : List Nat) : groupedDigits? value (u :: t) = some ds ↔
        (∀ c ∈ u :: t, (value c).isSome = true) ∧ (u :: t).filterMap value = ds :=
      ih (List.cons_ne_nil u t) fun h => hungrouped (List.mem_cons_of_mem c h)
    rw [groupedDigits?_cons_cons hu, List.forall_mem_cons]
    cases hc : value c with
    | none => simp
    | some d =>
      rw [List.filterMap_cons_some hc, Option.bind_some, Option.map_eq_some_iff]
      simp only [htail, Option.isSome_some, true_and]
      constructor
      · rintro ⟨ds, ⟨hall, rfl⟩, rfl⟩
        exact ⟨hall, rfl⟩
      · rintro ⟨hall, rfl⟩
        exact ⟨_, ⟨hall, rfl⟩, rfl⟩

end Numeral

/-! ## Numeric texts -/

/-- A text that looks numeric: digits of any kind after minus signs, with blanks around them. -/
@[ext]
structure NumericText where
  before : Text
  dashes : Nat
  digits : Text
  after : Text
  isBlank_before : ∀ c ∈ before, c.isBlank = true
  digits_ne_nil : digits ≠ []
  isDigit_digits : ∀ c ∈ digits, c.isDigit = true
  isBlank_after : ∀ c ∈ after, c.isBlank = true

namespace NumericText

variable (u : NumericText) {v : NumericText} {c : CodePoint}

def core : Text := List.replicate u.dashes Scalar.minus ++ u.digits

def text : Text := u.before ++ u.core ++ u.after

theorem core_ne_nil : u.core ≠ [] := List.append_ne_nil_of_right_ne_nil _ u.digits_ne_nil

theorem not_isBlank_of_mem_core (h : c ∈ u.core) : c.isBlank = false := by
  rcases List.mem_append.mp h with hdash | hdigit
  · rw [List.eq_of_mem_replicate hdash]
    decide
  · exact CodePoint.not_isBlank_of_isDigit (u.isDigit_digits c hdigit)

theorem ne_of_mem_digits {d : CodePoint} (h : c ∈ u.digits) (hd : d.isDigit = false) : c ≠ d :=
  CodePoint.ne_of_isDigit (u.isDigit_digits c h) hd

theorem strip_text : u.text.strip = u.core :=
  Text.trim_append u.isBlank_before u.isBlank_after u.core_ne_nil
    fun _ hc => u.not_isBlank_of_mem_core hc

theorem endsRun_core_append (r : Text) : EndsRun CodePoint.isBlank (u.core ++ r) := by
  obtain ⟨c, cs, hc⟩ := List.exists_cons_of_ne_nil u.core_ne_nil
  rw [hc]
  exact endsRun_cons (u.not_isBlank_of_mem_core (by simp [hc])) _

theorem endsRun_digits_append (r : Text) : EndsRun (· == Scalar.minus) (u.digits ++ r) := by
  obtain ⟨c, cs, hc⟩ := List.exists_cons_of_ne_nil u.digits_ne_nil
  have hminus : c ≠ Scalar.minus := u.ne_of_mem_digits (by simp [hc]) (by decide)
  rw [hc]
  exact endsRun_cons (q := (· == Scalar.minus)) (beq_eq_false_iff_ne.mpr hminus) _

theorem endsRun_after : EndsRun CodePoint.isDigit u.after := by
  intro c hc
  rw [← Bool.not_eq_true]
  intro hdigit
  have hblank := u.isBlank_after c (List.mem_of_head? hc)
  rw [CodePoint.not_isBlank_of_isDigit hdigit] at hblank
  cases hblank

theorem beq_minus_of_mem_replicate {k : Nat} (h : c ∈ List.replicate k Scalar.minus) :
    (c == Scalar.minus) = true :=
  beq_iff_eq.mpr (List.eq_of_mem_replicate h)

theorem dropWhile_core : u.core.dropWhile (· == Scalar.minus) = u.digits := by
  have hends := u.endsRun_digits_append []
  rw [List.append_nil] at hends
  exact dropWhile_append_of_endsRun (fun c hc => beq_minus_of_mem_replicate hc) hends

theorem exists_text_eq_iff {t : Text} : (∃ u : NumericText, u.text = t) ↔
    Body.looksNumeric t = true := by
  constructor
  · rintro ⟨u, rfl⟩
    have hdigits : (u.text.strip.dropWhile (· == CodePoint.ofChar '-')) = u.digits := by
      rw [strip_text]
      exact u.dropWhile_core
    simp only [Body.looksNumeric, hdigits, Bool.and_eq_true, Bool.not_eq_true',
      List.isEmpty_eq_false_iff, List.all_eq_true]
    exact ⟨u.digits_ne_nil, u.isDigit_digits⟩
  · intro h
    simp only [Body.looksNumeric, Bool.and_eq_true, Bool.not_eq_true', List.isEmpty_eq_false_iff,
      List.all_eq_true] at h
    obtain ⟨before, after, ht, hbefore, hafter⟩ := Text.exists_eq_append_trim CodePoint.isBlank t
    have hdashes : t.strip.takeWhile (· == Scalar.minus) =
        List.replicate (t.strip.takeWhile (· == Scalar.minus)).length Scalar.minus := by
      refine List.eq_replicate_of_mem fun c hc => ?_
      simpa using List.mem_takeWhile_imp hc
    refine ⟨⟨before, (t.strip.takeWhile (· == Scalar.minus)).length,
      t.strip.dropWhile (· == Scalar.minus), after, hbefore, h.1, h.2, hafter⟩, ?_⟩
    rw [text, core, ← hdashes, List.takeWhile_append_dropWhile]
    exact ht.symm

/-- The parts of a numeric text can be told from the text. -/
theorem text_inj {u : NumericText} (h : u.text = v.text) : u = v := by
  rw [text, text, List.append_assoc, List.append_assoc] at h
  obtain ⟨hbefore, hrest⟩ := run_append_inj u.isBlank_before v.isBlank_before
    (u.endsRun_core_append _) (v.endsRun_core_append _) h
  rw [core, core, List.append_assoc, List.append_assoc] at hrest
  obtain ⟨hdashes, hrest⟩ := run_append_inj (fun c hc => beq_minus_of_mem_replicate hc)
    (fun c hc => beq_minus_of_mem_replicate hc) (u.endsRun_digits_append _)
    (v.endsRun_digits_append _) hrest
  obtain ⟨hdigits, hafter⟩ :=
    run_append_inj u.isDigit_digits v.isDigit_digits u.endsRun_after v.endsRun_after hrest
  have hcount := congrArg List.length hdashes
  rw [List.length_replicate, List.length_replicate] at hcount
  exact NumericText.ext hbefore hcount hdigits hafter

theorem mem_text (h : c ∈ u.text) :
    c.isBlank = true ∨ c = Scalar.minus ∨ c.isDigit = true := by
  simp only [text, core, List.mem_append] at h
  rcases h with (hbefore | hdash | hdigit) | hafter
  · exact .inl (u.isBlank_before c hbefore)
  · exact .inr (.inl (List.eq_of_mem_replicate hdash))
  · exact .inr (.inr (u.isDigit_digits c hdigit))
  · exact .inl (u.isBlank_after c hafter)

/-! ## Codes among numeric texts -/

/-- Whether a numeric text is a code: decimal digits, not too many, after at most one minus sign,
inside white space. -/
structure IsCode : Prop where
  isWhiteSpace_before : ∀ c ∈ u.before, c.isWhiteSpace = true
  dashes_le : u.dashes ≤ 1
  isDecimal : ∀ c ∈ u.digits, c.decimalValue?.isSome = true
  length_le : u.digits.length ≤ Numeral.digitLimit
  isWhiteSpace_after : ∀ c ∈ u.after, c.isWhiteSpace = true

def number : Int :=
  Numeral.signed (u.dashes != 0)
    (Numeral.ofDigits 10 (u.digits.filterMap CodePoint.decimalValue?))

/-- What a code is read as can be written again. -/
theorem IsCode.isWritable_number {u : NumericText} (h : u.IsCode) :
    Numeral.isWritable u.number = true := by
  rw [Numeral.isWritable_iff, number]
  have hdigits : ∀ d ∈ u.digits.filterMap CodePoint.decimalValue?, d < 10 := by
    intro d hd
    obtain ⟨c, -, hc⟩ := List.mem_filterMap.mp hd
    exact CodePoint.decimalValue?_lt hc
  have hlength : (u.digits.filterMap CodePoint.decimalValue?).length ≤ Numeral.digitLimit :=
    (List.length_filterMap_le _ _).trans h.length_le
  have hsigned (b : Bool) (k : Nat) : (Numeral.signed b k).natAbs = k := by
    cases b <;> simp [Numeral.signed]
  rw [hsigned]
  exact (Numeral.ofDigits_lt hdigits).trans_le (Nat.pow_le_pow_right (by decide) hlength)

theorem trim_text {u : NumericText} (h : u.IsCode) :
    u.text.trim CodePoint.isWhiteSpace = u.core := by
  refine Text.trim_append h.isWhiteSpace_before h.isWhiteSpace_after u.core_ne_nil fun c hc => ?_
  rw [← Bool.not_eq_true]
  intro hwhite
  have hblank := u.not_isBlank_of_mem_core hc
  rw [CodePoint.isBlank_of_isWhiteSpace hwhite] at hblank
  cases hblank

theorem readSign_core (h : u.dashes ≤ 1) :
    Numeral.readSign u.core = (u.dashes != 0, u.digits) := by
  obtain ⟨c, cs, hc⟩ := List.exists_cons_of_ne_nil u.digits_ne_nil
  have hmem : c ∈ u.digits := by simp [hc]
  have hminus : c ≠ CodePoint.ofChar '-' := u.ne_of_mem_digits hmem (by decide)
  have hplus : c ≠ CodePoint.ofChar '+' := u.ne_of_mem_digits hmem (by decide)
  obtain hzero | hone : u.dashes = 0 ∨ u.dashes = 1 := by omega
  · simp [core, hzero, hc, Numeral.readSign, hminus, hplus]
  · simp [core, hone, Numeral.readSign, Scalar.minus]

theorem decimal?_text {u : NumericText} (h : u.IsCode) :
    Numeral.decimal? u.text = some u.number := by
  have hgrouped : Numeral.groupedDigits? CodePoint.decimalValue? u.digits =
      some (u.digits.filterMap CodePoint.decimalValue?) := by
    refine (Numeral.groupedDigits?_eq_some_iff u.digits_ne_nil fun hmem => ?_).mpr
      ⟨h.isDecimal, rfl⟩
    exact u.ne_of_mem_digits hmem (by decide) rfl
  have hlength : (u.digits.filterMap CodePoint.decimalValue?).length ≤ Numeral.digitLimit :=
    (List.length_filterMap_le _ _).trans h.length_le
  simp only [Numeral.decimal?, trim_text h, u.readSign_core h.dashes_le, hgrouped, bind,
    Option.bind, if_pos hlength]
  rfl

/-- Without plus signs and underscores only codes can be read. -/
theorem exists_isCode_of_decimal? {t : Text} {n : Int} (hplus : CodePoint.ofChar '+' ∉ t)
    (hgrouped : CodePoint.ofChar '_' ∉ t) (hn : Numeral.decimal? t = some n) :
    ∃ u : NumericText, u.IsCode ∧ u.text = t := by
  obtain ⟨before, after, ht, hbefore, hafter⟩ :=
    Text.exists_eq_append_trim CodePoint.isWhiteSpace t
  have htrim {c : CodePoint} (hc : c ∈ t.trim CodePoint.isWhiteSpace) : c ∈ t := by
    rw [ht]
    simp [hc]
  obtain ⟨k, hk, hsplit⟩ := Numeral.exists_replicate_append_readSign fun hc => hplus (htrim hc)
  simp only [Numeral.decimal?, bind, Option.bind_eq_some_iff] at hn
  obtain ⟨ds, hds, hn⟩ := hn
  -- from here on only what is left after the sign matters, not how it was found
  generalize (Numeral.readSign (t.trim CodePoint.isWhiteSpace)).2 = digits at hsplit hds
  have hdigits : CodePoint.ofChar '_' ∉ digits :=
    fun hc => hgrouped (htrim (hsplit ▸ List.mem_append_right _ hc))
  have hne : digits ≠ [] := by
    rintro rfl
    cases hds
  obtain ⟨hdecimal, rfl⟩ := (Numeral.groupedDigits?_eq_some_iff hne hdigits).mp hds
  split at hn
  next hlength =>
    rw [List.filterMap_length_eq_length.mpr hdecimal] at hlength
    refine ⟨⟨before, k, digits, after,
      fun c hc => CodePoint.isBlank_of_isWhiteSpace (hbefore c hc), hne,
      fun c hc => CodePoint.isDigit_of_isSome (hdecimal c hc),
      fun c hc => CodePoint.isBlank_of_isWhiteSpace (hafter c hc)⟩,
      ⟨hbefore, hk, hdecimal, hlength, hafter⟩, ?_⟩
    rw [text, core, hsplit]
    exact ht.symm
  next => cases hn

/-- Among numeric texts only codes can be read. -/
theorem isCode_of_decimal? {u : NumericText} {n : Int} (hn : Numeral.decimal? u.text = some n) :
    u.IsCode := by
  obtain ⟨v, hcode, htext⟩ := exists_isCode_of_decimal?
    (fun hc => absurd (u.mem_text hc) (by decide)) (fun hc => absurd (u.mem_text hc) (by decide)) hn
  rwa [← text_inj htext]

end NumericText

/-! ## Integers as they are written -/

namespace CodePoint

variable {c : CodePoint}

theorem decimalValue?_of_isAsciiDigit (h : c.isAsciiDigit = true) :
    c.decimalValue? = some (c.val - 48) := by
  have hrange : 0x30 ≤ c.val ∧ c.val < 0x30 + 10 := by
    have := of_decide_eq_true h
    omega
  have hzero : decimalZeros.find? (fun z => decide (z ≤ c.val ∧ c.val < z + 10)) = some 0x30 :=
    List.find?_cons_of_pos (decide_eq_true hrange)
  rw [decimalValue?, hzero, Option.map_some]

end CodePoint

namespace Text

variable {t : Text}

theorem IsDigits.ofDigits_eq (h : IsDigits t) :
    Numeral.ofDigits 10 (t.filterMap CodePoint.decimalValue?) = valueOf t := by
  have hvalues : t.filterMap CodePoint.decimalValue? = t.map (·.val - 48) := by
    rw [List.filterMap_congr fun c hc => CodePoint.decimalValue?_of_isAsciiDigit (h c hc)]
    exact congrFun List.filterMap_eq_map' t
  rw [hvalues, Numeral.ofDigits, List.foldl_map, valueOf]
  simp only [Nat.mul_comm]

theorem isSome_decimalValue?_of_mem_ofNat {n : Nat} {c : CodePoint} (h : c ∈ ofNat n) :
    c.decimalValue?.isSome = true :=
  Option.isSome_of_eq_some (CodePoint.decimalValue?_of_isAsciiDigit (isAsciiDigit_of_mem_ofNat h))

end Text

namespace NumericText

variable {n : Int}

/-- An integer as it is written. -/
def ofInt (n : Int) : NumericText where
  before := []
  dashes := if n < 0 then 1 else 0
  digits := Text.ofNat n.natAbs
  after := []
  isBlank_before := nofun
  digits_ne_nil := Text.ofNat_ne_nil n.natAbs
  isDigit_digits _ hc := CodePoint.isDigit_of_isSome (Text.isSome_decimalValue?_of_mem_ofNat hc)
  isBlank_after := nofun

theorem text_ofInt (n : Int) : (ofInt n).text = Text.ofInt n := by
  simp only [text, core, ofInt, List.nil_append, List.append_nil]
  cases n with
  | ofNat n => rfl
  | negSucc n =>
    rw [if_pos (Int.negSucc_lt_zero n)]
    rfl

theorem number_ofInt (n : Int) : (ofInt n).number = n := by
  have hdigits : Numeral.ofDigits 10 ((ofInt n).digits.filterMap CodePoint.decimalValue?) =
      n.natAbs := by
    rw [ofInt, (Text.isDigits_ofNat n.natAbs).ofDigits_eq, Text.valueOf_ofNat]
  rw [number, hdigits]
  by_cases hn : n < 0
  · have hdashes : (ofInt n).dashes = 1 := if_pos hn
    rw [hdashes]
    show -(n.natAbs : Int) = n
    omega
  · have hdashes : (ofInt n).dashes = 0 := if_neg hn
    rw [hdashes]
    exact Int.natAbs_of_nonneg (not_lt.mp hn)

theorem isCode_ofInt (h : n.natAbs < 10 ^ Numeral.digitLimit) : (ofInt n).IsCode where
  isWhiteSpace_before := nofun
  dashes_le := by
    show (if n < 0 then 1 else 0) ≤ 1
    split <;> decide
  isDecimal _ hc := Text.isSome_decimalValue?_of_mem_ofNat hc
  length_le := (Text.length_ofNat_le_iff (by decide)).mpr h
  isWhiteSpace_after := nofun

end NumericText

end SubscriptionClient
