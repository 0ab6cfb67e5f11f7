import Mathlib.Data.List.Basic
import SubscriptionClient.Number.Power
import SubscriptionClient.Proofs.Text.Reading
import SubscriptionClient.Text.Base64
import SubscriptionClient.Text.Percent

/-!
# Codes of texts and bytes

None of the codes that texts and bytes are written in loses anything: hexadecimal digits, Base64,
UTF-8 and percent escapes.
-/

namespace SubscriptionClient

theorem CodePoint.ofChar_inj {c d : Char} : CodePoint.ofChar c = CodePoint.ofChar d ↔ c = d := by
  constructor
  · intro h
    have hval : c.toNat = d.toNat := Fin.mk.inj h
    exact Char.toNat_inj.mp hval
  · rintro rfl
    rfl

/-! ## Hexadecimal digits -/

namespace Hex

theorem val_upperDigit {n : Nat} (h : n < 16) :
    (upperDigit n).val = if n < 10 then 48 + n else 55 + n := by
  unfold upperDigit
  split <;> simp [Fin.ofNat] <;> omega

theorem val_lowerDigit {n : Nat} (h : n < 16) :
    (lowerDigit n).val = if n < 10 then 48 + n else 87 + n := by
  unfold lowerDigit
  split <;> simp [Fin.ofNat] <;> omega

theorem upperDigit_inj {m n : Nat} (hm : m < 16) (hn : n < 16)
    (h : upperDigit m = upperDigit n) : m = n := by
  have hval := congrArg Fin.val h
  rw [val_upperDigit hm, val_upperDigit hn] at hval
  split at hval <;> split at hval <;> omega

theorem lowerDigit_inj {m n : Nat} (hm : m < 16) (hn : n < 16)
    (h : lowerDigit m = lowerDigit n) : m = n := by
  have hval := congrArg Fin.val h
  rw [val_lowerDigit hm, val_lowerDigit hn] at hval
  split at hval <;> split at hval <;> omega

theorem upperPair_inj {a b : UInt8} (h : upperPair a = upperPair b) : a = b := by
  have ha := a.toNat_lt
  have hb := b.toNat_lt
  simp only [upperPair, List.cons.injEq, and_true] at h
  have hhigh := upperDigit_inj (by omega) (by omega) h.1
  have hlow := upperDigit_inj (by omega) (by omega) h.2
  apply UInt8.toNat_inj.mp
  omega

@[simp] theorem length_ofNat (width n : Nat) : (ofNat width n).length = width := by
  induction width generalizing n with
  | zero => rfl
  | succ width ih => simp [ofNat, ih]

/-- Numbers that fit the width differ in some digit. -/
theorem ofNat_inj {width m n : Nat} (hm : m < 16 ^ width) (hn : n < 16 ^ width)
    (h : ofNat width m = ofNat width n) : m = n := by
  induction width generalizing m n with
  | zero =>
    rw [Nat.pow_zero] at hm hn
    omega
  | succ width ih =>
    rw [Nat.pow_succ] at hm hn
    obtain ⟨hhigh, hlow⟩ := List.append_inj h (by simp)
    have hdiv := ih (by omega) (by omega) hhigh
    have hmod := lowerDigit_inj (by omega) (by omega) (List.cons.inj hlow).1
    omega

theorem length_encode (bs : List UInt8) : (encode bs).length = 2 * bs.length := by
  induction bs with
  | nil => rfl
  | cons b bs ih =>
    rw [encode, List.flatMap_cons, List.length_append, ← encode, ih, List.length_cons]
    simp only [lowerPair, List.length_cons, List.length_nil]
    omega

end Hex

/-! ## Base64 -/

namespace Base64

theorem val_symbol {n : Nat} (h : n < 64) : (symbol n).val =
    if n < 26 then 65 + n else if n < 52 then 71 + n else if n < 62 then n - 4
    else if n = 62 then 43 else 47 := by
  unfold symbol
  split
  · simp [Fin.ofNat]
    omega
  · split
    · simp [Fin.ofNat]
      omega
    · split
      · simp [Fin.ofNat]
        omega
      · split <;> rfl

theorem symbol_inj {m n : Nat} (hm : m < 64) (hn : n < 64) (h : symbol m = symbol n) : m = n := by
  have hval := congrArg Fin.val h
  rw [val_symbol hm, val_symbol hn] at hval
  grind

theorem symbol_ne_pad {n : Nat} (h : n < 64) : symbol n ≠ pad := by
  intro heq
  have hval := congrArg Fin.val heq
  rw [val_symbol h] at hval
  have hpad : pad.val = 61 := rfl
  grind

/-- The four characters of a group tell its three bytes. -/
theorem group_inj {a b c a' b' c' : UInt8}
    (h₁ : symbol (a.toNat / 4) = symbol (a'.toNat / 4))
    (h₂ : symbol (a.toNat % 4 * 16 + b.toNat / 16) = symbol (a'.toNat % 4 * 16 + b'.toNat / 16))
    (h₃ : symbol (b.toNat % 16 * 4 + c.toNat / 64) = symbol (b'.toNat % 16 * 4 + c'.toNat / 64))
    (h₄ : symbol (c.toNat % 64) = symbol (c'.toNat % 64)) : a = a' ∧ b = b' ∧ c = c' := by
  have ha := a.toNat_lt
  have hb := b.toNat_lt
  have hc := c.toNat_lt
  have ha' := a'.toNat_lt
  have hb' := b'.toNat_lt
  have hc' := c'.toNat_lt
  have e₁ := symbol_inj (by omega) (by omega) h₁
  have e₂ := symbol_inj (by omega) (by omega) h₂
  have e₃ := symbol_inj (by omega) (by omega) h₃
  have e₄ := symbol_inj (by omega) (by omega) h₄
  simp only [← UInt8.toNat_inj]
  omega

theorem symbol_byte_ne_pad (b : UInt8) : symbol (b.toNat % 64) ≠ pad :=
  symbol_ne_pad (Nat.mod_lt _ (by decide))

theorem symbol_bytes_ne_pad (b c : UInt8) :
    symbol (b.toNat % 16 * 4 + c.toNat / 64) ≠ pad := by
  have hb := b.toNat_lt
  have hc := c.toNat_lt
  exact symbol_ne_pad (by omega)

theorem encode_inj {as bs : List UInt8} (h : encode as = encode bs) : as = bs := by
  induction as using encode.induct generalizing bs with
  | case1 =>
    match bs with
    | [] => rfl
    | [_] | [_, _] | _ :: _ :: _ :: _ => simp [encode] at h
  | case2 a =>
    match bs with
    | [] => simp [encode] at h
    | [b] =>
      simp only [encode, List.cons.injEq, and_true] at h
      have hzero : symbol (a.toNat % 4 * 16 + (0 : UInt8).toNat / 16) =
          symbol (b.toNat % 4 * 16 + (0 : UInt8).toNat / 16) := h.2
      obtain ⟨rfl, -, -⟩ := group_inj (c := 0) h.1 hzero rfl rfl
      rfl
    | [b, c] =>
      simp only [encode, List.cons.injEq] at h
      exact (symbol_bytes_ne_pad c 0 h.2.2.1.symm).elim
    | b :: c :: d :: rest =>
      simp only [encode, List.cons.injEq] at h
      exact (symbol_bytes_ne_pad c d h.2.2.1.symm).elim
  | case3 a a' =>
    match bs with
    | [] => simp [encode] at h
    | [b] =>
      simp only [encode, List.cons.injEq] at h
      exact (symbol_bytes_ne_pad a' 0 h.2.2.1).elim
    | [b, b'] =>
      simp only [encode, List.cons.injEq, and_true] at h
      have hzero : symbol (a'.toNat % 16 * 4 + (0 : UInt8).toNat / 64) =
          symbol (b'.toNat % 16 * 4 + (0 : UInt8).toNat / 64) := h.2.2
      obtain ⟨rfl, rfl, -⟩ := group_inj h.1 h.2.1 hzero rfl
      rfl
    | b :: c :: d :: rest =>
      simp only [encode, List.cons.injEq] at h
      exact (symbol_byte_ne_pad d h.2.2.2.1.symm).elim
  | case4 a a' a'' rest ih =>
    match bs with
    | [] => simp [encode] at h
    | [b] =>
      simp only [encode, List.cons.injEq] at h
      exact (symbol_bytes_ne_pad a' a'' h.2.2.1).elim
    | [b, b'] =>
      simp only [encode, List.cons.injEq] at h
      exact (symbol_byte_ne_pad a'' h.2.2.2.1).elim
    | b :: b' :: b'' :: rest' =>
      simp only [encode, List.cons.injEq] at h
      obtain ⟨rfl, rfl, rfl⟩ := group_inj h.1 h.2.1 h.2.2.1 h.2.2.2.1
      rw [ih h.2.2.2.2]

end Base64

/-! ## UTF-8 -/

namespace Utf8

theorem ofPoint_ne_nil (c : CodePoint) : ofPoint c ≠ [] := by
  unfold ofPoint
  dsimp only
  split
  · simp
  · split
    · simp
    · split <;> simp

theorem toNat_ofNat_of_lt {n : Nat} (h : n < 256) : (UInt8.ofNat n).toNat = n := by
  rw [UInt8.toNat_ofNat']
  exact Nat.mod_eq_of_lt h

theorem continuation?_ofNat {k : Nat} (h : k < 64) :
    continuation? (UInt8.ofNat (0x80 + k)) = some k := by
  rw [continuation?, toNat_ofNat_of_lt (by omega), if_pos (by omega)]
  simp

theorem point?_val {c : CodePoint} {least n : Nat} (hc : c.isSurrogate = false)
    (hleast : least ≤ c.val) (hn : n = c.val) : point? least n = some c := by
  subst hn
  rw [point?, dif_pos c.isLt, if_pos ⟨hleast, hc⟩]

theorem decodePoint?_ofPoint_append {c : CodePoint} (hc : c.isSurrogate = false)
    (r : List UInt8) : decodePoint? (ofPoint c ++ r) = some (c, r) := by
  have hlt := c.isLt
  unfold ofPoint
  dsimp only
  split
  · rename_i h
    rw [List.singleton_append]
    unfold decodePoint?
    dsimp only
    rw [toNat_ofNat_of_lt (by omega), if_pos h, point?_val hc (Nat.zero_le _) rfl]
    rfl
  · split
    · have hpoint : point? 0x80 ((0xC0 + c.val / 64 - 0xC0) * 64 + c.val % 64) = some c :=
        point?_val hc (by omega) (by omega)
      simp only [List.cons_append, List.nil_append, decodePoint?]
      rw [toNat_ofNat_of_lt (by omega), if_neg (by omega), if_neg (by omega), if_pos (by omega),
        continuation?_ofNat (by omega), Option.bind_eq_bind, Option.bind_some, hpoint]
      rfl
    · split
      · have hpoint : point? 0x800 ((0xE0 + c.val / 4096 - 0xE0) * 4096 + c.val / 64 % 64 * 64 +
            c.val % 64) = some c :=
          point?_val hc (by omega) (by omega)
        simp only [List.cons_append, List.nil_append, decodePoint?]
        rw [toNat_ofNat_of_lt (by omega), if_neg (by omega), if_neg (by omega), if_neg (by omega),
          if_pos (by omega), continuation?_ofNat (by omega), continuation?_ofNat (by omega),
          Option.bind_eq_bind, Option.bind_some, Option.bind_eq_bind, Option.bind_some, hpoint]
        rfl
      · have hpoint : point? 0x10000 ((0xF0 + c.val / 262144 - 0xF0) * 262144 +
            c.val / 4096 % 64 * 4096 + c.val / 64 % 64 * 64 + c.val % 64) = some c :=
          point?_val hc (by omega) (by omega)
        simp only [List.cons_append, List.nil_append, decodePoint?]
        rw [toNat_ofNat_of_lt (by omega), if_neg (by omega), if_neg (by omega), if_neg (by omega),
          if_neg (by omega), continuation?_ofNat (by omega), continuation?_ofNat (by omega),
          continuation?_ofNat (by omega), Option.bind_eq_bind, Option.bind_some,
          Option.bind_eq_bind, Option.bind_some, Option.bind_some, hpoint]
        rfl

theorem isPrefixFree_ofPoint : IsPrefixFree (fun c : CodePoint => c.isSurrogate = false) ofPoint := by
  intro c d r s hc hd h
  have hread := decodePoint?_ofPoint_append hc r
  rw [h, decodePoint?_ofPoint_append hd s, Option.some.injEq, Prod.mk.injEq] at hread
  exact hread.1.symm

theorem encode?_eq_some_iff {t : Text} {bs : List UInt8} :
    encode? t = some bs ↔ (∀ c ∈ t, c.isSurrogate = false) ∧ t.flatMap ofPoint = bs := by
  unfold encode?
  have hany : t.any CodePoint.isSurrogate = false ↔ ∀ c ∈ t, c.isSurrogate = false := by simp
  rw [← hany]
  cases t.any CodePoint.isSurrogate <;> simp

theorem encode?_inj {t u : Text} {bs : List UInt8} (ht : encode? t = some bs)
    (hu : encode? u = some bs) : t = u := by
  obtain ⟨hts, rfl⟩ := encode?_eq_some_iff.mp ht
  obtain ⟨hus, heq⟩ := encode?_eq_some_iff.mp hu
  exact isPrefixFree_ofPoint.flatMap_inj (fun c _ => ofPoint_ne_nil c) hts hus heq.symm

end Utf8

/-! ## Percent escapes -/

namespace Percent

theorem escapeByte_ne_nil (b : UInt8) : escapeByte b ≠ [] := by
  unfold escapeByte
  split <;> simp

/-- No escape begins like a byte that stands for itself. -/
theorem pointOfByte_ne_percent {b : UInt8} (h : isUnreserved b = true) :
    pointOfByte b ≠ CodePoint.ofChar '%' := by
  intro heq
  have hval : b.toNat = 37 := Fin.mk.inj heq
  simp [isUnreserved, hval] at h

theorem pointOfByte_inj {a b : UInt8} (h : pointOfByte a = pointOfByte b) : a = b :=
  UInt8.toNat_inj.mp (Fin.mk.inj h)

theorem isPrefixFree_escapeByte : IsPrefixFree (fun _ => True) escapeByte := by
  intro a b r s _ _ h
  unfold escapeByte at h
  split at h <;> split at h
  · exact pointOfByte_inj (List.cons.inj h).1
  · rename_i ha _
    exact (pointOfByte_ne_percent ha (List.cons.inj h).1).elim
  · rename_i hb
    exact (pointOfByte_ne_percent hb (List.cons.inj h).1.symm).elim
  · have hpairs := (List.cons.inj h).2
    exact Hex.upperPair_inj (List.append_inj hpairs rfl).1

theorem escape?_inj {t u e : Text} (ht : escape? t = some e) (hu : escape? u = some e) :
    t = u := by
  obtain ⟨bs, hbs, rfl⟩ := Option.map_eq_some_iff.mp ht
  obtain ⟨bs', hbs', heq⟩ := Option.map_eq_some_iff.mp hu
  have hbytes := isPrefixFree_escapeByte.flatMap_inj (fun b _ => escapeByte_ne_nil b)
    (fun _ _ => trivial) (fun _ _ => trivial) heq
  exact Utf8.encode?_inj hbs (hbytes ▸ hbs')

theorem val_ne_of_mem_escapeByte {b : UInt8} {c : CodePoint} (h : c ∈ escapeByte b) :
    c.val ≠ 47 := by
  have hb := b.toNat_lt
  unfold escapeByte at h
  split at h
  · rename_i hunreserved
    obtain rfl := List.mem_singleton.mp h
    intro hval
    have hbyte : b.toNat = 47 := hval
    simp [isUnreserved, hbyte] at hunreserved
  · simp only [Hex.upperPair, List.mem_cons, List.not_mem_nil, or_false] at h
    rcases h with rfl | rfl | rfl
    · decide
    · rw [Hex.val_upperDigit (by omega)]
      split <;> omega
    · rw [Hex.val_upperDigit (by omega)]
      split <;> omega

theorem slash_notMem_of_escape? {t e : Text} (h : escape? t = some e) :
    CodePoint.ofChar '/' ∉ e := by
  obtain ⟨bs, -, rfl⟩ := Option.map_eq_some_iff.mp h
  intro hmem
  obtain ⟨b, -, hb⟩ := List.mem_flatMap.mp hmem
  exact val_ne_of_mem_escapeByte hb rfl

end Percent

end SubscriptionClient
