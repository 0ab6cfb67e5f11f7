import Mathlib.Data.List.Chain
import SubscriptionClient.Proofs.Text.Numerals
import SubscriptionClient.Text.Utf16

/-!
# Clean texts

UTF-16 confuses a surrogate pair with the code point that it stands for, but loses nothing of a
clean text, which holds no such pair. ASCII texts are clean, and so are all strings.
-/

namespace SubscriptionClient

namespace Text

/-! ## ASCII -/

def IsAscii (t : Text) : Prop := ∀ c ∈ t, c.val < 128

instance (t : Text) : Decidable (IsAscii t) :=
  List.decidableBAll (fun c : CodePoint => c.val < 128) t

theorem IsAscii.append {t u : Text} (ht : IsAscii t) (hu : IsAscii u) : IsAscii (t ++ u) :=
  List.forall_mem_append.mpr ⟨ht, hu⟩

theorem isAscii_flatMap {α : Type} {f : α → Text} {l : List α} (h : ∀ a ∈ l, IsAscii (f a)) :
    IsAscii (l.flatMap f) := by
  intro c hc
  obtain ⟨a, ha, hca⟩ := List.mem_flatMap.mp hc
  exact h a ha c hca

theorem isAscii_intercalate {x : CodePoint} (hx : x.val < 128) {ts : List Text}
    (h : ∀ t ∈ ts, IsAscii t) : IsAscii (List.intercalate [x] ts) := by
  induction ts with
  | nil => simp [List.intercalate, IsAscii]
  | cons t ts ih =>
    have ht := h t List.mem_cons_self
    have hts := ih fun u hu => h u (List.mem_cons_of_mem t hu)
    cases ts with
    | nil => simpa [List.intercalate] using ht
    | cons u us =>
      have hcons : List.intercalate [x] (t :: u :: us) =
          t ++ (x :: List.intercalate [x] (u :: us)) := by simp [List.intercalate]
      rw [hcons]
      exact ht.append (List.forall_mem_cons.mpr ⟨hx, hts⟩)

theorem isAscii_of_isDigits {t : Text} (h : IsDigits t) : IsAscii t := by
  intro c hc
  have hrange := of_decide_eq_true (h c hc)
  omega

theorem isAscii_ofInt (n : Int) : IsAscii (ofInt n) := by
  cases n with
  | ofNat n => exact isAscii_of_isDigits (isDigits_ofNat n)
  | negSucc n =>
    exact List.forall_mem_cons.mpr ⟨by decide, isAscii_of_isDigits (isDigits_ofNat (n + 1))⟩

end Text

/-! ## Texts without surrogate pairs -/

theorem CodePoint.isHighSurrogate_ofChar (c : Char) :
    (CodePoint.ofChar c).isHighSurrogate = false := by
  have hvalid : c.toNat < 0xD800 ∨ 0xDFFF < c.toNat ∧ c.toNat < 0x110000 := c.valid
  apply decide_eq_false
  show ¬(0xD800 ≤ c.toNat ∧ c.toNat < 0xDC00)
  omega

namespace Text

/-- Whether no surrogate pair is kept as two code points. -/
def IsClean (t : Text) : Prop :=
  t.IsChain fun c d => ¬(c.isHighSurrogate = true ∧ d.isLowSurrogate = true)

theorem isClean_of_lt {t : Text} (h : ∀ c ∈ t, c.isHighSurrogate = false) : t.IsClean := by
  induction t with
  | nil => exact .nil
  | cons c t ih =>
    have ht := ih fun d hd => h d (List.mem_cons_of_mem c hd)
    cases t with
    | nil => exact .singleton c
    | cons d t =>
      refine List.isChain_cons_cons.mpr ⟨?_, ht⟩
      simp [h c List.mem_cons_self]

theorem isClean_toText (s : String) : s.toText.IsClean := by
  apply isClean_of_lt
  intro c hc
  obtain ⟨d, -, rfl⟩ := List.mem_map.mp hc
  exact CodePoint.isHighSurrogate_ofChar d

theorem isClean_of_isAscii {t : Text} (h : IsAscii t) : t.IsClean := by
  apply isClean_of_lt
  intro c hc
  apply decide_eq_false
  have hlt := h c hc
  omega

theorem IsClean.append_cons {t r : Text} {c : CodePoint} (hc : c.val < 128) (ht : t.IsClean)
    (hr : r.IsClean) : (t ++ c :: r).IsClean := by
  have hhigh : c.isHighSurrogate = false := decide_eq_false (by omega)
  have hlow : c.isLowSurrogate = false := decide_eq_false (by omega)
  have hcons : IsClean (c :: r) := by
    refine List.isChain_cons.mpr ⟨fun d _ => ?_, hr⟩
    simp [hhigh]
  refine List.isChain_append.mpr ⟨ht, hcons, fun d _ e he => ?_⟩
  obtain rfl := Option.some.inj he
  simp [hlow]

theorem isClean_intercalate {c : CodePoint} (hc : c.val < 128) {ts : List Text}
    (h : ∀ t ∈ ts, t.IsClean) : IsClean (List.intercalate [c] ts) := by
  induction ts with
  | nil => exact .nil
  | cons t ts ih =>
    have ht := h t List.mem_cons_self
    have hts := ih fun u hu => h u (List.mem_cons_of_mem t hu)
    cases ts with
    | nil => simpa using ht
    | cons u us =>
      rw [List.intercalate_cons_cons, List.append_assoc]
      exact ht.append_cons hc hts

end Text

namespace Base64

theorem val_symbol_lt {n : Nat} (h : n < 64) : (symbol n).val < 128 := by
  rw [val_symbol h]
  grind

theorem isAscii_encode (bs : List UInt8) : Text.IsAscii (encode bs) := by
  have hpad : pad.val < 128 := by decide
  induction bs using encode.induct with
  | case1 => exact List.forall_mem_nil _
  | case2 a =>
    have ha := a.toNat_lt
    simp only [encode, Text.IsAscii, List.forall_mem_cons]
    exact ⟨val_symbol_lt (by omega), val_symbol_lt (by omega), hpad, hpad, List.forall_mem_nil _⟩
  | case3 a b =>
    have ha := a.toNat_lt
    have hb := b.toNat_lt
    simp only [encode, Text.IsAscii, List.forall_mem_cons]
    exact ⟨val_symbol_lt (by omega), val_symbol_lt (by omega), val_symbol_lt (by omega), hpad,
      List.forall_mem_nil _⟩
  | case4 a b d rest ih =>
    have ha := a.toNat_lt
    have hb := b.toNat_lt
    have hd := d.toNat_lt
    simp only [encode, Text.IsAscii, List.forall_mem_cons]
    exact ⟨val_symbol_lt (by omega), val_symbol_lt (by omega), val_symbol_lt (by omega),
      val_symbol_lt (by omega), ih⟩

theorem isClean_encode (bs : List UInt8) : (encode bs).IsClean :=
  Text.isClean_of_isAscii (isAscii_encode bs)

end Base64

/-! ## UTF-16 -/

namespace Utf16

theorem ofPoint_ne_nil (c : CodePoint) : ofPoint c ≠ [] := by
  unfold ofPoint
  split <;> simp

theorem lt_of_mem_ofPoint {c : CodePoint} {u : Nat} (h : u ∈ ofPoint c) : u < 0x10000 := by
  have hc := c.isLt
  unfold ofPoint at h
  split at h <;> simp only [List.mem_cons, List.not_mem_nil, or_false] at h <;> omega

/-- The first unit of a text that a high surrogate may stand before does not complete it. -/
theorem pointOfPair?_eq_none {c d : CodePoint} {v : Nat} {rest : List Nat}
    (hclean : ¬(c.isHighSurrogate = true ∧ d.isLowSurrogate = true))
    (hv : ofPoint d = v :: rest) : pointOfPair? c.val v = none := by
  have hd := d.isLt
  apply dif_neg
  rintro ⟨hhigh, hlow⟩
  unfold ofPoint at hv
  split at hv
  · obtain rfl := (List.cons.inj hv).1
    exact hclean ⟨decide_eq_true hhigh, decide_eq_true hlow⟩
  · have hfirst := (List.cons.inj hv).1
    omega

theorem decode_encode {t : Text} (h : t.IsClean) : decode (encode t) = t := by
  induction t with
  | nil => rfl
  | cons c t ih =>
    have htail : Text.IsClean t := List.IsChain.of_cons h
    have hlt := c.isLt
    rw [encode, List.flatMap_cons, ← encode]
    by_cases hc : c.val < 0x10000
    · have hunit : pointOfUnit c.val = c := Fin.ext (Nat.mod_eq_of_lt hc)
      rw [ofPoint, if_pos hc, List.singleton_append]
      cases t with
      | nil => exact congrArg (fun d => [d]) hunit
      | cons d t =>
        obtain ⟨v, rest, hv⟩ := List.exists_cons_of_ne_nil (ofPoint_ne_nil d)
        have hpair := pointOfPair?_eq_none (List.isChain_cons_cons.mp h).1 hv
        have hrest : encode (d :: t) = v :: (rest ++ encode t) := by
          rw [encode, List.flatMap_cons, hv, List.cons_append, ← encode]
        rw [hrest, decode, hpair, ← hrest, ih htail]
        exact congrArg (fun x => x :: d :: t) hunit
    · have hpair : pointOfPair? (0xD800 + (c.val - 0x10000) / 0x400)
          (0xDC00 + (c.val - 0x10000) % 0x400) = some c := by
        rw [pointOfPair?, dif_pos (by omega), Option.some.injEq]
        apply Fin.ext
        show 0x10000 + (0xD800 + (c.val - 0x10000) / 0x400 - 0xD800) * 0x400 +
          (0xDC00 + (c.val - 0x10000) % 0x400 - 0xDC00) = c.val
        omega
      rw [ofPoint, if_neg hc, List.cons_append, List.singleton_append, decode, hpair]
      exact congrArg (fun x => c :: x) (ih htail)

theorem encode_inj {t u : Text} (ht : t.IsClean) (hu : u.IsClean) (h : encode t = encode u) :
    t = u := by
  rw [← decode_encode ht, h, decode_encode hu]

end Utf16

end SubscriptionClient
