import SubscriptionClient.Number.Decimal
import SubscriptionClient.Proofs.Text.Clean

/-!
# Reading the text of a decimal

The text of a decimal can be read off from a longer text that goes on with neither a digit, a point
nor an exponent; and it tells the double that the decimal stands for.
-/

namespace SubscriptionClient.Decimal

open Text

/-- Whether a text does not go on with a part of a number. -/
def EndsDecimal (t : Text) : Prop :=
  ∀ c, t.head? = some c →
    c.isAsciiDigit = false ∧ c ≠ CodePoint.ofChar '.' ∧ c ≠ CodePoint.ofChar 'E'

theorem EndsDecimal.endsNumeral {t : Text} (h : EndsDecimal t) : EndsNumeral t :=
  fun c hc => (h c hc).1

variable {e f : Int} {r s t u : Text}

/-! ## The parts of a finite number -/

/-- The exponent of a scientific form, which is left out when it is zero. -/
def exponentPart (e : Int) : Text := if e = 0 then [] else exponentText e

/-- The digits after the point, which is left out when there are none. -/
def fractionPart (t : Text) : Text := if t = [] then [] else CodePoint.ofChar '.' :: t

theorem exponentText_eq (e : Int) : exponentText e = CodePoint.ofChar 'E' ::
    (if e < 0 then CodePoint.ofChar '-' else CodePoint.ofChar '+') :: ofNat e.natAbs := by
  unfold exponentText
  split <;> rfl

theorem exponentPart_append_inj (hr : EndsDecimal r) (hs : EndsDecimal s)
    (h : exponentPart e ++ r = exponentPart f ++ s) : e = f ∧ r = s := by
  unfold exponentPart at h
  split at h
  · rename_i he
    split at h
    · rename_i hf
      exact ⟨by rw [he, hf], h⟩
    · rw [exponentText_eq, List.nil_append] at h
      exact absurd rfl (hr _ (by rw [h]; rfl)).2.2
  · split at h
    · rw [exponentText_eq, List.nil_append] at h
      exact absurd rfl (hs _ (by rw [← h]; rfl)).2.2
    · rw [exponentText_eq, exponentText_eq, List.cons_append, List.cons_append, List.cons_append,
        List.cons_append] at h
      obtain ⟨hsign, hrest⟩ := List.cons.inj (List.cons.inj h).2
      obtain ⟨habs, hrs⟩ := (isDigits_ofNat _).append_inj (isDigits_ofNat _) hr.endsNumeral
        hs.endsNumeral hrest
      have hnat := ofNat_inj habs
      have hne : CodePoint.ofChar '-' ≠ CodePoint.ofChar '+' := by decide
      refine ⟨?_, hrs⟩
      by_cases he : e < 0 <;> by_cases hf : f < 0 <;> simp only [he, hf, if_true, if_false] at hsign
      · omega
      · exact absurd hsign hne
      · exact absurd hsign.symm hne
      · omega

theorem head?_exponentPart_append (e : Int) (r : Text) {c : CodePoint}
    (h : (exponentPart e ++ r).head? = some c) : c = CodePoint.ofChar 'E' ∨ r.head? = some c := by
  unfold exponentPart at h
  split at h
  · exact .inr h
  · rw [exponentText_eq] at h
    exact .inl (Option.some.inj h).symm

theorem head?_fractionPart_append (t r : Text) {c : CodePoint}
    (h : (fractionPart t ++ r).head? = some c) : c = CodePoint.ofChar '.' ∨ r.head? = some c := by
  unfold fractionPart at h
  split at h
  · exact .inr h
  · exact .inl (Option.some.inj h).symm

theorem endsNumeral_exponentPart_append (e : Int) (hr : EndsDecimal r) :
    EndsNumeral (exponentPart e ++ r) := by
  intro c hc
  rcases head?_exponentPart_append e r hc with rfl | h
  · decide
  · exact (hr c h).1

theorem ne_point_of_exponentPart_append (e : Int) (hr : EndsDecimal r) {c : CodePoint}
    (h : (exponentPart e ++ r).head? = some c) : c ≠ CodePoint.ofChar '.' := by
  rcases head?_exponentPart_append e r h with rfl | h
  · decide
  · exact (hr c h).2.1

theorem endsNumeral_fractionPart_append (t : Text) (e : Int) (hr : EndsDecimal r) :
    EndsNumeral (fractionPart t ++ (exponentPart e ++ r)) := by
  intro c hc
  rcases head?_fractionPart_append t _ hc with rfl | h
  · decide
  · exact endsNumeral_exponentPart_append e hr c h

theorem fractionPart_append_inj (ht : IsDigits t) (hu : IsDigits u) (hr : EndsDecimal r)
    (hs : EndsDecimal s)
    (h : fractionPart t ++ (exponentPart e ++ r) = fractionPart u ++ (exponentPart f ++ s)) :
    t = u ∧ exponentPart e ++ r = exponentPart f ++ s := by
  unfold fractionPart at h
  split at h
  · rename_i ht'
    split at h
    · rename_i hu'
      exact ⟨by rw [ht', hu'], h⟩
    · exact absurd rfl (ne_point_of_exponentPart_append e hr (by rw [List.nil_append] at h; rw [h]; rfl))
  · split at h
    · exact absurd rfl (ne_point_of_exponentPart_append f hs (by rw [List.nil_append] at h; rw [← h]; rfl))
    · rw [List.cons_append, List.cons_append] at h
      exact ht.append_inj hu (endsNumeral_exponentPart_append e hr)
        (endsNumeral_exponentPart_append f hs) (List.cons.inj h).2

/-! ## Finite numbers -/

/-- A number as it is written: the digits before and after the point, and the exponent. -/
structure Written where
  whole : Text
  fraction : Text
  exponent : Int

namespace Written

def text (w : Written) : Text := w.whole ++ (fractionPart w.fraction ++ exponentPart w.exponent)

structure IsProper (w : Written) : Prop where
  ne_nil : w.whole ≠ []
  whole : IsDigits w.whole
  fraction : IsDigits w.fraction

theorem IsProper.append_inj {w x : Written} (hw : w.IsProper) (hx : x.IsProper)
    (hr : EndsDecimal r) (hs : EndsDecimal s) (h : w.text ++ r = x.text ++ s) :
    w = x ∧ r = s := by
  rw [text, text, List.append_assoc, List.append_assoc, List.append_assoc, List.append_assoc] at h
  obtain ⟨hwhole, h⟩ := hw.whole.append_inj hx.whole (endsNumeral_fractionPart_append _ _ hr)
    (endsNumeral_fractionPart_append _ _ hs) h
  obtain ⟨hfraction, h⟩ := fractionPart_append_inj hw.fraction hx.fraction hr hs h
  obtain ⟨hexponent, hrs⟩ := exponentPart_append_inj hr hs h
  cases w
  cases x
  simp only [Written.mk.injEq]
  exact ⟨⟨hwhole, hfraction, hexponent⟩, hrs⟩

/-- The coefficient and the exponent of a number that is written without loss. -/
structure Denotes (w : Written) (coefficient : Nat) (exponent : Int) : Prop where
  coefficient_eq : valueOf (w.whole ++ w.fraction) = coefficient
  exponent_eq : w.exponent - w.fraction.length = exponent

end Written

variable {c : Nat} {negative : Bool}

/-- The place after the leading digit of `c * 10 ^ e`. -/
def leading (c : Nat) (e : Int) : Int := e + (ofNat c).length

def point (c : Nat) (e : Int) : Int := if e ≤ 0 ∧ -6 < leading c e then leading c e else 1

def zeros (k : Nat) : Text := List.replicate k (CodePoint.ofChar '0')

def written (c : Nat) (e : Int) : Written :=
  if point c e ≤ 0 then
    ⟨"0".toText, zeros (point c e).natAbs ++ ofNat c, leading c e - point c e⟩
  else if (ofNat c).length ≤ (point c e).toNat then
    ⟨ofNat c ++ zeros ((point c e).toNat - (ofNat c).length), [], leading c e - point c e⟩
  else
    ⟨(ofNat c).take (point c e).toNat, (ofNat c).drop (point c e).toNat, leading c e - point c e⟩

theorem exponentPart_sub (e f : Int) :
    exponentPart (e - f) = if e = f then [] else exponentText (e - f) := by
  unfold exponentPart
  by_cases h : e = f
  · rw [if_pos h, if_pos (by omega)]
  · rw [if_neg h, if_neg (by omega)]

theorem fractionPart_of_ne_nil (h : t ≠ []) : fractionPart t = CodePoint.ofChar '.' :: t := if_neg h

/-- The number before its exponent. -/
def numberText (c : Nat) (e : Int) : Text :=
  if point c e ≤ 0 then "0.".toText ++ zeros (point c e).natAbs ++ ofNat c
  else if (ofNat c).length ≤ (point c e).toNat then
    ofNat c ++ zeros ((point c e).toNat - (ofNat c).length)
  else (ofNat c).take (point c e).toNat ++ ".".toText ++ (ofNat c).drop (point c e).toNat

theorem text_finite (negative : Bool) (c : Nat) (e : Int) : text (finite negative c e) =
    signText negative ++ (numberText c e ++ exponentPart (leading c e - point c e)) := by
  rw [exponentPart_sub, ← List.append_assoc]
  rfl

theorem text_written (c : Nat) (e : Int) :
    (written c e).text = numberText c e ++ exponentPart (leading c e - point c e) := by
  unfold written numberText Written.text
  split
  · have hne : zeros (point c e).natAbs ++ ofNat c ≠ [] := by simp [ofNat_ne_nil]
    dsimp only
    rw [fractionPart_of_ne_nil hne, List.append_assoc, List.append_assoc, List.cons_append,
      List.append_assoc]
    rfl
  · split
    · rfl
    · have hne : (ofNat c).drop (point c e).toNat ≠ [] := by
        rw [ne_eq, List.drop_eq_nil_iff]
        omega
      dsimp only
      rw [fractionPart_of_ne_nil hne, List.append_assoc, List.append_assoc]
      rfl

theorem isDigits_zeros (k : Nat) : IsDigits (zeros k) := by
  intro d hd
  rw [List.eq_of_mem_replicate hd]
  decide

theorem isProper_written (c : Nat) (e : Int) : (written c e).IsProper := by
  have hdigits := isDigits_ofNat c
  have hne := ofNat_ne_nil c
  unfold written
  split
  · exact ⟨nofun, isDigits_zeros 1, (isDigits_zeros _).append hdigits⟩
  · split
    · exact ⟨by simp [hne], hdigits.append (isDigits_zeros _), nofun⟩
    · have htake : (ofNat c).take (point c e).toNat ≠ [] := by
        rw [ne_eq, List.take_eq_nil_iff]
        rintro (h | h)
        · omega
        · exact hne h
      exact ⟨htake, fun d hd => hdigits d (List.mem_of_mem_take hd),
        fun d hd => hdigits d (List.mem_of_mem_drop hd)⟩

theorem denotes_written (c : Nat) (e : Int) : (written c e).Denotes c e := by
  have hlength : 0 < (ofNat c).length := List.length_pos_iff.mpr (ofNat_ne_nil c)
  have hpoint : point c e = leading c e ∧ e ≤ 0 ∨ point c e = 1 := by
    unfold point
    split
    · rename_i h
      exact .inl ⟨rfl, h.1⟩
    · exact .inr rfl
  unfold leading at hpoint
  unfold written
  split
  · constructor
    · exact (valueOf_zeros_append (point c e).natAbs.succ (ofNat c)).trans (valueOf_ofNat c)
    · simp only [List.length_append, zeros, List.length_replicate, leading]
      omega
  · split
    · -- the point is right behind the digits, so that no zero follows them
      have hzeros : (point c e).toNat - (ofNat c).length = 0 := by omega
      constructor
      · rw [hzeros]
        simp only [zeros, List.replicate_zero, List.append_nil]
        exact valueOf_ofNat c
      · simp only [List.length_nil, leading]
        omega
    · constructor
      · simp only [List.take_append_drop]
        exact valueOf_ofNat c
      · simp only [List.length_drop, leading]
        omega

/-- A number that is written tells its coefficient and its exponent. -/
theorem eq_of_written_eq {c' : Nat} {e' : Int} (h : written c e = written c' e') :
    c = c' ∧ e = e' := by
  have hc := denotes_written c e
  have hc' := denotes_written c' e'
  rw [h] at hc
  exact ⟨hc.coefficient_eq.symm.trans hc'.coefficient_eq,
    hc.exponent_eq.symm.trans hc'.exponent_eq⟩

/-! ## All decimals -/

variable {d d' : Decimal}

def isNegative : Decimal → Bool
  | finite negative _ _ | infinite negative | nan negative _ _ => negative

/-- The text of a decimal without its sign. -/
def unsigned : Decimal → Text
  | finite _ c e => (written c e).text
  | infinite _ => "Infinity".toText
  | nan _ signaling payload =>
    (if signaling then "sNaN" else "NaN").toText ++ (payload.map Text.ofNat).getD []

theorem text_eq (d : Decimal) : d.text = signText d.isNegative ++ d.unsigned := by
  cases d with
  | finite negative c e => rw [text_finite, ← text_written]; rfl
  | infinite negative => rfl
  | nan negative signaling payload => exact List.append_assoc _ _ _

/-- What the first character without the sign tells. -/
inductive Kind where
  | number
  | infinity
  | quiet
  | signaling
  | none
  deriving DecidableEq

def kind : Decimal → Kind
  | finite _ _ _ => .number
  | infinite _ => .infinity
  | nan _ signaling _ => if signaling then .signaling else .quiet

def kindOf (c : CodePoint) : Kind :=
  if c.isAsciiDigit then .number
  else if c = CodePoint.ofChar 'I' then .infinity
  else if c = CodePoint.ofChar 'N' then .quiet
  else if c = CodePoint.ofChar 's' then .signaling
  else .none

theorem exists_unsigned_cons (d : Decimal) :
    ∃ c t, d.unsigned = c :: t ∧ kindOf c = d.kind := by
  cases d with
  | finite negative c e =>
    have hproper := isProper_written c e
    obtain ⟨z, t, ht⟩ := List.exists_cons_of_ne_nil hproper.ne_nil
    have hz : z.isAsciiDigit = true := hproper.whole z (by rw [ht]; exact List.mem_cons_self)
    refine ⟨z, t ++ (fractionPart (written c e).fraction ++ exponentPart (written c e).exponent),
      ?_, if_pos hz⟩
    rw [unsigned, Written.text, ht, List.cons_append]
  | infinite negative =>
    have hkind : kindOf (CodePoint.ofChar 'I') = .infinity := by decide
    exact ⟨_, _, rfl, hkind⟩
  | nan negative signaling payload =>
    have hquiet : kindOf (CodePoint.ofChar 'N') = .quiet := by decide
    have hsignaling : kindOf (CodePoint.ofChar 's') = .signaling := by decide
    cases signaling
    · exact ⟨_, _, rfl, hquiet⟩
    · exact ⟨_, _, rfl, hsignaling⟩

theorem kind_ne_none (d : Decimal) : d.kind ≠ .none := by
  cases d with
  | finite | infinite => exact nofun
  | nan negative signaling => cases signaling <;> exact nofun

theorem ne_minus (d : Decimal) (r t : Text) : d.unsigned ++ r ≠ CodePoint.ofChar '-' :: t := by
  intro h
  obtain ⟨c, u, hu, hc⟩ := exists_unsigned_cons d
  rw [hu, List.cons_append] at h
  obtain rfl := (List.cons.inj h).1
  exact kind_ne_none d hc.symm

theorem sign_append_inj
    (h : signText d.isNegative ++ (d.unsigned ++ r) = signText d'.isNegative ++ (d'.unsigned ++ s)) :
    d.isNegative = d'.isNegative ∧ d.unsigned ++ r = d'.unsigned ++ s := by
  cases hd : d.isNegative <;> cases hd' : d'.isNegative <;> rw [hd, hd'] at h
  · exact ⟨rfl, h⟩
  · exact absurd h (ne_minus d r _)
  · exact absurd h.symm (ne_minus d' s _)
  · exact ⟨rfl, (List.cons.inj h).2⟩

theorem kind_eq (h : d.unsigned ++ r = d'.unsigned ++ s) : d.kind = d'.kind := by
  obtain ⟨c, t, ht, hc⟩ := exists_unsigned_cons d
  obtain ⟨c', t', ht', hc'⟩ := exists_unsigned_cons d'
  rw [ht, ht', List.cons_append, List.cons_append] at h
  rw [← hc, ← hc', (List.cons.inj h).1]

theorem payload_append_inj {p q : Option Nat} (hr : EndsDecimal r) (hs : EndsDecimal s)
    (h : (p.map ofNat).getD [] ++ r = (q.map ofNat).getD [] ++ s) : r = s := by
  have hdigits (p : Option Nat) : IsDigits ((p.map ofNat).getD []) := by
    cases p with
    | none => exact nofun
    | some n => exact isDigits_ofNat n
  exact ((hdigits p).append_inj (hdigits q) hr.endsNumeral hs.endsNumeral h).2

/-- The text of a decimal can be read off, and it tells the double. -/
theorem text_append_inj (hr : EndsDecimal r) (hs : EndsDecimal s)
    (h : d.text ++ r = d'.text ++ s) : d.toDouble? = d'.toDouble? ∧ r = s := by
  rw [text_eq, text_eq, List.append_assoc, List.append_assoc] at h
  obtain ⟨hsign, h⟩ := sign_append_inj h
  have hkind := kind_eq h
  cases d with
  | finite negative c e =>
    cases d' with
    | finite negative' c' e' =>
      obtain ⟨hwritten, hrs⟩ := (isProper_written c e).append_inj (isProper_written c' e') hr hs h
      obtain ⟨rfl, rfl⟩ := eq_of_written_eq hwritten
      obtain rfl : negative = negative' := hsign
      exact ⟨rfl, hrs⟩
    | infinite => cases hkind
    | nan negative' signaling => cases signaling <;> cases hkind
  | infinite negative =>
    cases d' with
    | finite => cases hkind
    | infinite negative' =>
      obtain rfl : negative = negative' := hsign
      exact ⟨rfl, List.append_cancel_left h⟩
    | nan negative' signaling => cases signaling <;> cases hkind
  | nan negative signaling p =>
    cases d' with
    | finite | infinite => cases signaling <;> cases hkind
    | nan negative' signaling' q =>
      obtain rfl : signaling = signaling' := by
        cases signaling <;> cases signaling' <;> first | rfl | cases hkind
      rw [unsigned, unsigned, List.append_assoc, List.append_assoc] at h
      refine ⟨?_, payload_append_inj hr hs (List.append_cancel_left h)⟩
      cases signaling <;> rfl

/-! ## Decimal texts are ASCII -/

theorem isAscii_exponentPart (e : Int) : IsAscii (exponentPart e) := by
  have habs := isAscii_of_isDigits (isDigits_ofNat e.natAbs)
  unfold exponentPart exponentText
  split
  · exact nofun
  · split
    · exact IsAscii.append (by decide) habs
    · exact IsAscii.append (by decide) habs

theorem isAscii_fractionPart (h : IsDigits t) : IsAscii (fractionPart t) := by
  unfold fractionPart
  split
  · exact nofun
  · exact List.forall_mem_cons.mpr ⟨by decide, isAscii_of_isDigits h⟩

theorem isAscii_unsigned (d : Decimal) : IsAscii d.unsigned := by
  cases d with
  | finite negative c e =>
    have hproper := isProper_written c e
    exact (isAscii_of_isDigits hproper.whole).append
      ((isAscii_fractionPart hproper.fraction).append (isAscii_exponentPart _))
  | infinite negative =>
    show IsAscii "Infinity".toText
    decide
  | nan negative signaling p =>
    refine IsAscii.append ?_ (isAscii_of_isDigits ?_)
    · cases signaling <;> decide
    · cases p with
      | none => exact nofun
      | some n => exact isDigits_ofNat n

theorem isAscii_text (d : Decimal) : IsAscii d.text := by
  have hsign (negative : Bool) : IsAscii (signText negative) := by cases negative <;> decide
  rw [text_eq]
  exact (hsign d.isNegative).append (isAscii_unsigned d)

end SubscriptionClient.Decimal
