import SubscriptionClient.Proofs.Text.Codes

/-!
# Escapes and their reader

What a text is escaped as holds only unreserved characters and escapes of bytes, so nothing in it has
a meaning in a path. Reading the escapes as bytes and the bytes as UTF-8 gives the text back.
-/

namespace SubscriptionClient

/-- Whether a character ends a segment of a path or is not allowed in one. -/
def CodePoint.breaksSegment (c : CodePoint) : Bool :=
  "/?# ".toText.contains c || decide (128 ≤ c.val)

namespace Hex

theorem digitValue?_upperDigit {n : Nat} (h : n < 16) : digitValue? (upperDigit n) = some n := by
  unfold digitValue?
  rw [val_upperDigit h]
  grind

end Hex

/-! ## UTF-8 -/

namespace Utf8

theorem decode?_nil : decode? [] = some [] := by
  rw [decode?, if_pos rfl]

theorem decode?_ofPoint_append {c : CodePoint} (hc : c.isSurrogate = false) (r : List UInt8) :
    decode? (ofPoint c ++ r) = (decode? r).map (c :: ·) := by
  have hne : ofPoint c ++ r ≠ [] := by simp [ofPoint_ne_nil c]
  rw [decode?, if_neg hne]
  split
  · rename_i hnone
    rw [decodePoint?_ofPoint_append hc] at hnone
    cases hnone
  · rename_i d rest hsome
    rw [decodePoint?_ofPoint_append hc] at hsome
    obtain ⟨rfl, rfl⟩ := Prod.mk.inj (Option.some.inj hsome)
    rfl

theorem decode?_of_encode? {t : Text} {bs : List UInt8} (h : encode? t = some bs) :
    decode? bs = some t := by
  obtain ⟨ht, rfl⟩ := encode?_eq_some_iff.mp h
  clear h
  induction t with
  | nil => exact decode?_nil
  | cons c t ih =>
    obtain ⟨hc, ht⟩ := List.forall_mem_cons.mp ht
    rw [List.flatMap_cons, decode?_ofPoint_append hc, ih ht, Option.map_some]

theorem encode?_eq_none_iff {t : Text} : encode? t = none ↔ ∃ c ∈ t, c.isSurrogate = true := by
  unfold encode?
  rw [← List.any_eq_true]
  cases t.any CodePoint.isSurrogate <;> simp

end Utf8

/-! ## Percent escapes -/

namespace Percent

def unreserved : Text :=
  "ABCDEFGHIJKLMNOPQRSTUVWXYZabcdefghijklmnopqrstuvwxyz0123456789_.-~".toText

def digits : Text := "0123456789ABCDEF".toText

/-- Texts of unreserved characters and of percent signs with two upper-case digits each. -/
inductive IsEscaped : Text → Prop where
  | nil : IsEscaped []
  | unreserved {c : CodePoint} {t : Text} (hc : c ∈ unreserved) (ht : IsEscaped t) :
    IsEscaped (c :: t)
  | escape {x y : CodePoint} {t : Text} (hx : x ∈ digits) (hy : y ∈ digits) (ht : IsEscaped t) :
    IsEscaped (CodePoint.ofChar '%' :: x :: y :: t)

theorem breaksSegment_of_mem {c : CodePoint}
    (h : c ∈ CodePoint.ofChar '%' :: (unreserved ++ digits)) : c.breaksSegment = false := by
  have hall : (CodePoint.ofChar '%' :: (unreserved ++ digits)).all (!·.breaksSegment) = true := by
    decide +kernel
  simpa using List.all_eq_true.mp hall c h

theorem IsEscaped.breaksSegment_eq {t : Text} (h : IsEscaped t) :
    ∀ c ∈ t, c.breaksSegment = false := by
  induction h with
  | nil => simp
  | unreserved hc _ ih =>
    exact List.forall_mem_cons.mpr ⟨breaksSegment_of_mem (by simp [hc]), ih⟩
  | escape hx hy _ ih =>
    simp only [List.forall_mem_cons]
    exact ⟨breaksSegment_of_mem (by simp), breaksSegment_of_mem (by simp [hx]),
      breaksSegment_of_mem (by simp [hy]), ih⟩

theorem pointOfByte_mem_unreserved {b : UInt8} (h : isUnreserved b = true) :
    pointOfByte b ∈ unreserved := by
  have hall : (List.range 256).all (fun n => !isUnreserved (UInt8.ofNat n) ||
      unreserved.contains (pointOfByte (UInt8.ofNat n))) = true := by decide +kernel
  have hb := List.all_eq_true.mp hall b.toNat (List.mem_range.mpr b.toNat_lt)
  rw [UInt8.ofNat_toNat, h] at hb
  simpa using hb

theorem upperDigit_mem_digits {n : Nat} (h : n < 16) : Hex.upperDigit n ∈ digits := by
  have hall : ∀ n : Fin 16, Hex.upperDigit n ∈ digits := by decide +kernel
  exact hall ⟨n, h⟩

theorem isEscaped_escapeByte_append (b : UInt8) {t : Text} (h : IsEscaped t) :
    IsEscaped (escapeByte b ++ t) := by
  have hb := b.toNat_lt
  unfold escapeByte
  split
  · rename_i hunreserved
    exact .unreserved (pointOfByte_mem_unreserved hunreserved) h
  · exact .escape (upperDigit_mem_digits (by omega)) (upperDigit_mem_digits (by omega)) h

theorem isEscaped_flatMap (bs : List UInt8) : IsEscaped (bs.flatMap escapeByte) := by
  induction bs with
  | nil => exact .nil
  | cons b bs ih => exact isEscaped_escapeByte_append b ih

theorem unescapeBytes?_cons {c : CodePoint} (hc : c ≠ CodePoint.ofChar '%') (hascii : c.val < 0x80)
    (r : Text) : unescapeBytes? (c :: r) = (unescapeBytes? r).map (UInt8.ofNat c.val :: ·) := by
  conv_lhs => unfold unescapeBytes?
  rw [if_neg hc, if_pos hascii]

theorem unescapeBytes?_escapeByte_append (b : UInt8) (r : Text) :
    unescapeBytes? (escapeByte b ++ r) = (unescapeBytes? r).map (b :: ·) := by
  have hb := b.toNat_lt
  unfold escapeByte
  split
  · rename_i hunreserved
    have hpercent := pointOfByte_ne_percent hunreserved
    have hascii : (pointOfByte b).val < 0x80 := by
      have hbreaks := breaksSegment_of_mem (c := pointOfByte b)
        (by simp [pointOfByte_mem_unreserved hunreserved])
      simp only [CodePoint.breaksSegment, Bool.or_eq_false_iff, decide_eq_false_iff_not] at hbreaks
      omega
    rw [List.singleton_append, unescapeBytes?_cons hpercent hascii]
    show (unescapeBytes? r).map (UInt8.ofNat b.toNat :: ·) = _
    rw [UInt8.ofNat_toNat]
  · have hpair : b.toNat / 16 * 16 + b.toNat % 16 = b.toNat := Nat.div_add_mod' _ _
    simp only [Hex.upperPair, List.cons_append, List.nil_append, unescapeBytes?, if_true]
    rw [Hex.digitValue?_upperDigit (by omega), Hex.digitValue?_upperDigit (by omega),
      Option.bind_eq_bind, Option.bind_some, Option.bind_eq_bind, Option.bind_some, hpair,
      UInt8.ofNat_toNat]
    cases unescapeBytes? r <;> rfl

theorem unescapeBytes?_flatMap (bs : List UInt8) :
    unescapeBytes? (bs.flatMap escapeByte) = some bs := by
  induction bs with
  | nil => rfl
  | cons b bs ih => rw [List.flatMap_cons, unescapeBytes?_escapeByte_append, ih, Option.map_some]

variable {t e : Text}

theorem isEscaped_of_escape? (h : escape? t = some e) : IsEscaped e := by
  obtain ⟨bs, -, rfl⟩ := Option.map_eq_some_iff.mp h
  exact isEscaped_flatMap bs

theorem unescape?_of_escape? (h : escape? t = some e) : unescape? e = some t := by
  obtain ⟨bs, hbs, rfl⟩ := Option.map_eq_some_iff.mp h
  rw [unescape?, unescapeBytes?_flatMap, Option.bind_some, Utf8.decode?_of_encode? hbs]

theorem escape?_eq_none_iff : escape? t = none ↔ ∃ c ∈ t, c.isSurrogate = true := by
  rw [escape?, Option.map_eq_none_iff, Utf8.encode?_eq_none_iff]

/-- Only the empty text is escaped as nothing. -/
theorem ne_nil_of_escape? (h : escape? t = some e) (ht : t ≠ []) : e ≠ [] := by
  rintro rfl
  have hread := unescape?_of_escape? h
  rw [show unescape? [] = some [] from Utf8.decode?_nil] at hread
  exact ht (Option.some.inj hread).symm

end Percent

end SubscriptionClient
