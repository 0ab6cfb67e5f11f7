import SubscriptionClient.Domain.Uuid
import SubscriptionClient.Proofs.Text.HexNumerals

/-!
# UUIDs in texts

A text is a UUID when the characters that count in it are a hexadecimal numeral of thirty-two
characters, and the UUID is the value of that numeral. A UUID is read back from its own text, also
inside braces and after the prefixes of a resource name.
-/

namespace SubscriptionClient

/-! ## Removing parts of a text -/

namespace Text

variable {c : CodePoint} {p t : Text}

theorem remove_cons_of_not_isPrefixOf (h : p.isPrefixOf (c :: t) = false) :
    remove p (c :: t) = c :: remove p t := by
  rw [remove, h, Bool.false_and, if_neg Bool.false_ne_true]

theorem remove_of_notMem (h : c ∉ t) : remove (c :: p) t = t := by
  induction t with
  | nil => rw [remove]
  | cons d t ih =>
    rw [List.mem_cons, not_or] at h
    have hprefix : (c :: p).isPrefixOf (d :: t) = false := by
      rw [List.isPrefixOf, beq_eq_false_iff_ne.mpr h.1, Bool.false_and]
    rw [remove_cons_of_not_isPrefixOf hprefix, ih h.2]

theorem remove_append (hp : p ≠ []) (t : Text) : remove p (p ++ t) = remove p t := by
  obtain ⟨c, cs, rfl⟩ := List.exists_cons_of_ne_nil hp
  have hprefix : (c :: cs).isPrefixOf (c :: (cs ++ t)) = true :=
    List.isPrefixOf_iff_prefix.mpr (List.prefix_append (c :: cs) t)
  rw [List.cons_append, remove, hprefix]
  simp

end Text

namespace Uuid

variable {t : Text} {u : Uuid}

/-! ## Texts that are UUIDs -/

/-- Whether a text is this UUID. -/
structure IsSpelledBy (u : Uuid) (t : Text) : Prop where
  length_eq : (significant t).length = 32
  spellsHex : Numeral.SpellsHex (significant t) u.value

theorem read?_eq_some_iff : read? t = some u ↔ u.IsSpelledBy t := by
  constructor
  · intro h
    rw [read?] at h
    split_ifs at h with hlength
    split at h
    next k hread =>
      split_ifs at h with hk
      cases h
      exact ⟨hlength, Numeral.spellsHex_iff.mpr hread⟩
    next => cases h
  · rintro ⟨hlength, hspells⟩
    have hread : Numeral.hexadecimal? (significant t) = some (.ofNat u.value) :=
      Numeral.spellsHex_iff.mp hspells
    simp only [read?, hlength, hread, u.isLt, ↓reduceIte, ↓reduceDIte]

theorem hyphen_notMem_significant (t : Text) : CodePoint.ofChar '-' ∉ significant t := by
  intro h
  have hne := (List.mem_filter.mp h).2
  rw [bne_self_eq_false] at hne
  cases hne

/-- Thirty-two characters that count are enough for a UUID, if they are a numeral at all. -/
theorem exists_isSpelledBy {n : Int} (hlength : (significant t).length = 32)
    (h : Numeral.SpellsHex (significant t) n) : ∃ u : Uuid, u.value = n ∧ u.IsSpelledBy t := by
  obtain ⟨k, rfl, hk⟩ := h.exists_natCast (hyphen_notMem_significant t)
  have hlt : k < 2 ^ 128 := by
    rw [hlength] at hk
    exact hk.trans_le (by decide)
  exact ⟨⟨k, hlt⟩, rfl, hlength, h⟩

/-! ## The text of a UUID -/

def hyphen : CodePoint := CodePoint.ofChar '-'

def isBrace (c : CodePoint) : Bool := c == CodePoint.ofChar '\x7b' || c == CodePoint.ofChar '\x7d'

/-- Whether a text is hexadecimal digits and hyphens. -/
def IsHyphenated (t : Text) : Prop :=
  ∀ c ∈ t, (Numeral.hexValue? c).isSome = true ∨ c = hyphen

namespace IsHyphenated

theorem ne {c d : CodePoint} (h : IsHyphenated t) (hc : c ∈ t) (hd : Numeral.hexValue? d = none)
    (hhyphen : d ≠ hyphen) : c ≠ d := by
  rcases h c hc with hdigit | rfl
  · exact Numeral.ne_of_isSome hdigit hd
  · exact hhyphen.symm

/-- Braces around digits and hyphens do not count, and neither do the hyphens. -/
theorem significant_eq {before after : Text} (h : IsHyphenated t) (hne : t ≠ [])
    (hbefore : ∀ c ∈ before, isBrace c = true) (hafter : ∀ c ∈ after, isBrace c = true) :
    significant (before ++ t ++ after) = t.filter (· != hyphen) := by
  have hbrace {c : CodePoint} (hc : isBrace c = true) : c ≠ CodePoint.ofChar 'u' := by
    rintro rfl
    cases hc
  have hu : CodePoint.ofChar 'u' ∉ before ++ t ++ after := by
    simp only [List.mem_append, not_or]
    exact ⟨⟨fun hc => hbrace (hbefore _ hc) rfl, fun hc => h.ne hc (by decide) (by decide) rfl⟩,
      fun hc => hbrace (hafter _ hc) rfl⟩
  have hplain : ∀ c ∈ t, isBrace c = false := by
    intro c hc
    rw [isBrace, beq_eq_false_iff_ne.mpr (h.ne hc (by decide) (by decide)),
      beq_eq_false_iff_ne.mpr (h.ne hc (by decide) (by decide)), Bool.or_false]
  have hurn : Text.remove "urn:".toText (before ++ t ++ after) = before ++ t ++ after :=
    Text.remove_of_notMem hu
  have huuid : Text.remove "uuid:".toText (before ++ t ++ after) = before ++ t ++ after :=
    Text.remove_of_notMem hu
  have htrim : Text.trim isBrace (before ++ t ++ after) = t :=
    Text.trim_append hbefore hafter hne hplain
  show (Text.trim isBrace (Text.remove _ (Text.remove _ _))).filter _ = _
  rw [hurn, huuid, htrim]
  rfl

end IsHyphenated

/-- The prefixes of a resource name do not count. -/
theorem significant_urn (t : Text) : significant ("urn:uuid:".toText ++ t) = significant t := by
  have hkept : Text.remove "urn:".toText ("uuid:".toText ++ t) =
      "uuid:".toText ++ Text.remove "urn:".toText t := by
    show Text.remove _ (_ :: _ :: _ :: _ :: _ :: t) = _
    repeat rw [Text.remove_cons_of_not_isPrefixOf rfl]
    rfl
  have hbare : Text.remove "uuid:".toText (Text.remove "urn:".toText ("urn:uuid:".toText ++ t)) =
      Text.remove "uuid:".toText (Text.remove "urn:".toText t) := by
    rw [show "urn:uuid:".toText ++ t = "urn:".toText ++ ("uuid:".toText ++ t) from rfl,
      Text.remove_append (by decide), hkept, Text.remove_append (by decide)]
  rw [significant, hbare]
  rfl

/-- Hyphens between groups of digits are all that does not count in them. -/
theorem isHyphenated_intercalate {gs : List Text}
    (h : ∀ g ∈ gs, ∀ c ∈ g, (Numeral.hexValue? c).isSome = true) :
    IsHyphenated (List.intercalate [hyphen] gs) ∧
      (List.intercalate [hyphen] gs).filter (· != hyphen) = gs.flatten := by
  have hplain {g : Text} (hg : ∀ c ∈ g, (Numeral.hexValue? c).isSome = true) :
      g.filter (· != hyphen) = g :=
    List.filter_eq_self.mpr fun c hc => bne_iff_ne.mpr (Numeral.ne_of_isSome (hg c hc) (by decide))
  induction gs with
  | nil => exact ⟨nofun, rfl⟩
  | cons g gs ih =>
    obtain ⟨hg, hgs⟩ := List.forall_mem_cons.mp h
    cases gs with
    | nil =>
      rw [List.intercalate_singleton, List.flatten_singleton]
      exact ⟨fun c hc => .inl (hg c hc), hplain hg⟩
    | cons g' gs =>
      obtain ⟨ihhyphen, ihfilter⟩ := ih hgs
      rw [List.intercalate_cons_cons]
      refine ⟨fun c hc => ?_, ?_⟩
      · rcases List.mem_append.mp hc with hc | hc
        · exact (List.mem_append.mp hc).imp (hg c) List.mem_singleton.mp
        · exact ihhyphen c hc
      · have hsep : [hyphen].filter (· != hyphen) = [] := by decide
        rw [List.filter_append, List.filter_append, hplain hg, ihfilter, hsep, List.append_nil]
        rfl

/-- The five groups that a UUID is written in. -/
def groups (digits : Text) : List Text :=
  [digits.take 8, (digits.drop 8).take 4, (digits.drop 12).take 4, (digits.drop 16).take 4,
    digits.drop 20]

theorem flatten_groups (digits : Text) : (groups digits).flatten = digits := by
  have hdrop (k : Nat) : (digits.drop k).take 4 ++ digits.drop (k + 4) = digits.drop k := by
    rw [← List.drop_drop, List.take_append_drop]
  simp only [groups, List.flatten_cons, List.flatten_nil, List.append_nil]
  rw [hdrop 16, hdrop 12, hdrop 8, List.take_append_drop]

theorem significant_text {before after : Text} (u : Uuid)
    (hbefore : ∀ c ∈ before, isBrace c = true) (hafter : ∀ c ∈ after, isBrace c = true) :
    significant (before ++ u.text ++ after) = Hex.ofNat 32 u.value := by
  have hflat := flatten_groups (Hex.ofNat 32 u.value)
  have htext : u.text = List.intercalate [hyphen] (groups (Hex.ofNat 32 u.value)) := rfl
  rw [htext]
  generalize groups (Hex.ofNat 32 u.value) = gs at hflat ⊢
  have hdigits : ∀ g ∈ gs, ∀ c ∈ g, (Numeral.hexValue? c).isSome = true := fun g hg c hc =>
    Numeral.isSome_hexValue?_of_mem_ofNat (hflat ▸ List.mem_flatten_of_mem hg hc)
  obtain ⟨hhyphen, hfilter⟩ := isHyphenated_intercalate hdigits
  have hne : List.intercalate [hyphen] gs ≠ [] := by
    intro hnil
    rw [hnil] at hfilter
    have hlength := congrArg List.length (hfilter.trans hflat)
    rw [Hex.length_ofNat] at hlength
    cases hlength
  rw [hhyphen.significant_eq hne hbefore hafter, hfilter, hflat]

/-- A UUID is read back from its text, which braces may surround. -/
theorem read?_text {before after : Text} (u : Uuid) (hbefore : ∀ c ∈ before, isBrace c = true)
    (hafter : ∀ c ∈ after, isBrace c = true) : read? (before ++ u.text ++ after) = some u := by
  have hspells := Numeral.spellsHex_ofNat 31 u.value
  rw [Nat.mod_eq_of_lt (u.isLt.trans_le (by decide))] at hspells
  have hsignificant := significant_text u hbefore hafter
  refine read?_eq_some_iff.mpr ⟨?_, ?_⟩
  · rw [hsignificant, Hex.length_ofNat]
  · rwa [hsignificant]

theorem read?_urn (t : Text) : read? ("urn:uuid:".toText ++ t) = read? t := by
  rw [read?, significant_urn, ← read?]

theorem text_injective : Function.Injective text := by
  intro u v h
  have hu : read? ([] ++ u.text ++ []) = some u := read?_text u (by simp) (by simp)
  have hv : read? ([] ++ v.text ++ []) = some v := read?_text v (by simp) (by simp)
  rw [h, hv] at hu
  exact (Option.some.inj hu).symm

end Uuid

end SubscriptionClient
