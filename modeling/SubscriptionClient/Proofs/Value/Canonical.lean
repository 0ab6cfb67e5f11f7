import Mathlib.Order.Lattice
import SubscriptionClient.Proofs.Value.Describing
import SubscriptionClient.Proofs.Value.Quoting
import SubscriptionClient.Proofs.Value.SameJson

/-!
# Canonical texts

Every plain value whose integers can be written has a canonical text, and two such values have the
same one exactly when they are the same JSON. A canonical text can be read off from what follows it,
so the texts of items and members can be told apart inside that of their list or mapping.
-/

namespace SubscriptionClient

namespace Value

/-- Whether a value is plain and has only integers that can be written. -/
inductive IsCanonical : Value → Prop where
  | null : IsCanonical .null
  | bool (b : Bool) : IsCanonical (.bool b)
  | int {n : Int} (h : Numeral.isWritable n = true) : IsCanonical (.int n)
  | text {t : Text} (h : t.IsClean) : IsCanonical (.text t)
  | list {items : List Value} (h : ∀ v ∈ items, IsCanonical v) : IsCanonical (.list items)
  | map {members : List (Value × Value)} (hn : (members.map Prod.fst).Nodup)
    (hk : ∀ e ∈ members, ∃ t, e.1 = .text t ∧ t.IsClean) (hv : ∀ e ∈ members, IsCanonical e.2) :
    IsCanonical (.map members)

variable {v x : Value} {xs : List Value} {es : List (Value × Value)}

theorem IsPlain.isTextKeyed (h : v.IsPlain) : v.IsTextKeyed := by
  induction h with
  | null => exact .null
  | bool b => exact .bool b
  | int n => exact .int n
  | text => exact .text _
  | list _ ih => exact .list ih
  | map _ hk _ ih =>
    refine .map (fun e he => ?_) ih
    obtain ⟨t, ht, -⟩ := hk e he
    exact ⟨t, ht⟩

theorem IsPlain.isCanonical (h : v.IsPlain) (hw : v.isWritable = true) : v.IsCanonical := by
  induction h with
  | null => exact .null
  | bool b => exact .bool b
  | int n =>
    rw [isWritable] at hw
    exact .int hw
  | text ht => exact .text ht
  | list _ ih => exact .list fun x hx => ih x hx (isWritable_list_iff.mp hw x hx)
  | map hn hk _ ih => exact .map hn hk fun e he => ih e he (isWritable_map_iff.mp hw e he).2

theorem IsCanonical.of_mem_list (h : IsCanonical (.list xs)) (hx : x ∈ xs) : IsCanonical x := by
  cases h with
  | list h => exact h x hx

theorem IsCanonical.of_mem_map (h : IsCanonical (.map es)) {e : Value × Value} (he : e ∈ es) :
    IsCanonical e.2 := by
  cases h with
  | map hn hk hv => exact hv e he

theorem IsCanonical.nodup_keys (h : IsCanonical (.map es)) : (es.map Prod.fst).Nodup := by
  cases h with
  | map hn hk hv => exact hn

end Value

namespace Json

open Text Value

/-- The canonical text of a value that has one. -/
def textOf (v : Value) : Text :=
  match write? compact v with
  | .ok t => t
  | .error _ => []

def keyText : Value → Text
  | .text t => t
  | _ => []

/-- The members of a mapping as names and texts. -/
def named (es : List (Value × Value)) : List (Text × Text) :=
  es.map fun e => (keyText e.1, textOf e.2)

def memberOf (p : Text × Text) : Member := ⟨.text p.1, .ok p.2⟩

def partOf (p : Text × Text) : Text := quote p.1 ++ compact.name ++ p.2

/-- The order of names. -/
def nameLe (p q : Text × Text) : Bool := !decide (q.1 < p.1)

def sorted (ps : List (Text × Text)) : List (Text × Text) := ps.mergeSort nameLe

variable {v w : Value} {xs ys : List Value} {es fs : List (Value × Value)}
  {ps qs : List (Text × Text)}

/-! ## The texts of lists and mappings -/

theorem textOf_of_write? {t : Text} (h : write? compact v = .ok t) : textOf v = t := by
  rw [textOf, h]

theorem write?_int {n : Int} (h : Numeral.isWritable n = true) :
    write? compact (.int n) = .ok (Text.ofInt n) := by
  rw [write?, Numeral.write?, if_pos h]
  rfl

theorem textOf_int {n : Int} (h : Numeral.isWritable n = true) : textOf (.int n) = Text.ofInt n :=
  textOf_of_write? (write?_int h)

theorem writeItems?_eq (h : ∀ v ∈ xs, write? compact v = .ok (textOf v)) :
    writeItems? compact xs = .ok (xs.map textOf) := by
  rw [writeItems?_eq_mapM, mapM_eq_ok h]

theorem write?_list (h : ∀ v ∈ xs, write? compact v = .ok (textOf v)) :
    write? compact (.list xs) = .ok (enclose "[" "]" compact (xs.map textOf)) := by
  rw [write?, writeItems?_eq h]
  rfl

theorem members_eq (hk : ∀ e ∈ es, ∃ t, e.1 = .text t ∧ t.IsClean)
    (hv : ∀ e ∈ es, write? compact e.2 = .ok (textOf e.2)) :
    members compact es = (named es).map memberOf := by
  rw [members_eq_map, named, List.map_map]
  refine List.map_congr_left fun e he => ?_
  obtain ⟨t, ht, -⟩ := hk e he
  rw [hv e he, ht, Function.comp_apply, ht, keyText, memberOf]

theorem arrange?_memberOf (ps : List (Text × Text)) :
    arrange? (ps.map memberOf) = .ok ((sorted ps).map memberOf) := by
  have hall : (ps.map memberOf).all (·.text?.isSome) = true := by simp [memberOf, Member.text?]
  have hsort : (sorted ps).map memberOf = (ps.map memberOf).mergeSort Member.le :=
    List.map_mergeSort fun _ _ _ _ => rfl
  rw [arrange?, if_pos hall, hsort]

theorem mapM_memberText (ps : List (Text × Text)) :
    (ps.map memberOf).mapM (memberText compact) = .ok (ps.map partOf) := by
  induction ps with
  | nil => rfl
  | cons p ps ih =>
    rw [List.map_cons, List.mapM_cons, ih]
    rfl

theorem write?_map (hk : ∀ e ∈ es, ∃ t, e.1 = .text t ∧ t.IsClean)
    (hv : ∀ e ∈ es, write? compact e.2 = .ok (textOf e.2)) :
    write? compact (.map es) =
      .ok (enclose "\x7b" "\x7d" compact ((sorted (named es)).map partOf)) := by
  simp only [write?, members_eq hk hv, arrange?_memberOf, bind, Except.bind, mapM_memberText]
  rfl

theorem write?_of_isCanonical (h : v.IsCanonical) : write? compact v = .ok (textOf v) := by
  induction h with
  | null | bool | text => simp [textOf, write?]
  | int h => rw [textOf_int h, write?_int h]
  | list h ih => rw [textOf_of_write? (write?_list ih), write?_list ih]
  | map hn hk hv ih => rw [textOf_of_write? (write?_map hk ih), write?_map hk ih]

theorem textOf_list (h : (Value.list xs).IsCanonical) :
    textOf (.list xs) = enclose "[" "]" compact (xs.map textOf) :=
  textOf_of_write? (write?_list fun _ hx => write?_of_isCanonical (h.of_mem_list hx))

theorem textOf_map (h : (Value.map es).IsCanonical) :
    textOf (.map es) = enclose "\x7b" "\x7d" compact ((sorted (named es)).map partOf) := by
  cases h with
  | map hn hk hv =>
    exact textOf_of_write? (write?_map hk fun e he => write?_of_isCanonical (hv e he))

/-! ## Canonical texts can be read off -/

/-- The kind of a canonical value. -/
def kind : Value → Nat
  | .null => 0
  | .bool _ => 1
  | .int _ => 2
  | .text _ => 3
  | .list _ => 4
  | _ => 5

/-- The kind that the first character of a canonical text tells; a closing bracket tells none. -/
def kindOfChar (c : CodePoint) : Nat :=
  if c = CodePoint.ofChar 'n' then 0
  else if c = CodePoint.ofChar 't' ∨ c = CodePoint.ofChar 'f' then 1
  else if c = CodePoint.ofChar '"' then 3
  else if c = CodePoint.ofChar '[' then 4
  else if c = CodePoint.ofChar '\x7b' then 5
  else if c = CodePoint.ofChar ']' then 6
  else 2

theorem kindOfChar_of_isAsciiDigit {c : CodePoint} (h : c.isAsciiDigit = true) :
    kindOfChar c = 2 := by
  have hrange : 48 ≤ c.val ∧ c.val ≤ 57 := of_decide_eq_true h
  have hne (d : Char) (hd : 57 < d.toNat) : c ≠ CodePoint.ofChar d := by
    rintro rfl
    exact Nat.not_le.mpr hd hrange.2
  have hquote : c ≠ CodePoint.ofChar '"' := by
    rintro rfl
    exact absurd hrange.1 (by decide)
  unfold kindOfChar
  rw [if_neg (hne 'n' (by decide)), if_neg (by simp [hne 't' (by decide), hne 'f' (by decide)]),
    if_neg hquote, if_neg (hne '[' (by decide)), if_neg (hne '\x7b' (by decide)),
    if_neg (hne ']' (by decide))]

theorem exists_ofInt_cons (n : Int) : ∃ c t, Text.ofInt n = c :: t ∧ kindOfChar c = 2 := by
  cases n with
  | ofNat n =>
    obtain ⟨c, t, hc⟩ := List.exists_cons_of_ne_nil (Text.ofNat_ne_nil n)
    have hdigit := Text.isAsciiDigit_of_mem_ofNat (n := n) (c := c) (by simp [hc])
    exact ⟨c, t, hc, kindOfChar_of_isAsciiDigit hdigit⟩
  | negSucc n => exact ⟨CodePoint.ofChar '-', Text.ofNat (n + 1), rfl, rfl⟩

/-- The first character tells what kind of value follows. -/
theorem exists_textOf_cons (h : v.IsCanonical) :
    ∃ c t, textOf v = c :: t ∧ kindOfChar c = kind v := by
  cases h with
  | null => exact ⟨_, _, rfl, rfl⟩
  | bool b => cases b <;> exact ⟨_, _, rfl, rfl⟩
  | int h =>
    rw [textOf_int h]
    exact exists_ofInt_cons _
  | text h => exact ⟨_, _, rfl, rfl⟩
  | list h => exact ⟨_, _, textOf_list (.list h), rfl⟩
  | map hn hk hv => exact ⟨_, _, textOf_map (.map hn hk hv), rfl⟩

theorem kind_eq {r s : Text} (hv : v.IsCanonical) (hw : w.IsCanonical)
    (h : textOf v ++ r = textOf w ++ s) : kind v = kind w := by
  obtain ⟨c, t, hc, hkind⟩ := exists_textOf_cons hv
  obtain ⟨d, u, hd, hkind'⟩ := exists_textOf_cons hw
  rw [hc, hd] at h
  rw [← hkind, ← hkind', (List.cons.inj h).1]

/-- Whether the canonical texts of two values differ before anything that may follow a numeral. -/
def Separable (v w : Value) : Prop :=
  ∀ r s, Text.EndsNumeral r → Text.EndsNumeral s → textOf v ++ r = textOf w ++ s →
    textOf v = textOf w

theorem compact_item : compact.item = [CodePoint.ofChar ','] := rfl

theorem endsNumeral_mark {c : Char} (h : (CodePoint.ofChar c).isAsciiDigit = false) (t : Text) :
    Text.EndsNumeral (CodePoint.ofChar c :: t) := Text.endsNumeral_cons h t

theorem avoidsMark_items (h : (Value.list xs).IsCanonical) :
    AvoidsMark (CodePoint.ofChar ']') (xs.map textOf) := by
  intro t ht
  obtain ⟨x, hx, rfl⟩ := List.mem_map.mp ht
  obtain ⟨c, t, hc, hkind⟩ := exists_textOf_cons (h.of_mem_list hx)
  refine ⟨c, t, hc, ?_⟩
  rintro rfl
  have hbracket : kindOfChar (CodePoint.ofChar ']') = 6 := by decide
  have hle : kind x ≤ 5 := by cases x <;> simp [kind]
  omega

theorem items_eq {r s : Text} (hxs : (Value.list xs).IsCanonical)
    (hys : (Value.list ys).IsCanonical)
    (hq : ∀ x ∈ xs, ∀ y ∈ ys, Separable x y)
    (h : textOf (.list xs) ++ r = textOf (.list ys) ++ s) : xs.map textOf = ys.map textOf := by
  rw [textOf_list hxs, textOf_list hys] at h
  simp only [enclose, compact_item, List.append_assoc] at h
  refine (intercalate_append_inj (by decide) (endsNumeral_mark (by decide))
    (endsNumeral_mark (by decide)) ?_ (avoidsMark_items hxs) (avoidsMark_items hys)
    (List.append_cancel_left h)).1
  intro t ht u hu r s hr hs heq
  obtain ⟨x, hx, rfl⟩ := List.mem_map.mp ht
  obtain ⟨y, hy, rfl⟩ := List.mem_map.mp hu
  exact hq x hx y hy r s hr hs heq

theorem avoidsMark_members (ps : List (Text × Text)) :
    AvoidsMark (CodePoint.ofChar '\x7d') (ps.map partOf) := by
  intro t ht
  obtain ⟨p, hp, rfl⟩ := List.mem_map.mp ht
  exact ⟨CodePoint.ofChar '"', _, rfl, by decide⟩

theorem mem_named_iff (h : (Value.map es).IsCanonical) {p : Text × Text} :
    p ∈ named es ↔ p.1.IsClean ∧ ∃ x, (.text p.1, x) ∈ es ∧ p.2 = textOf x := by
  obtain ⟨t, u⟩ := p
  cases h with
  | map hn hk hv =>
    rw [named, List.mem_map]
    constructor
    · rintro ⟨⟨k, x⟩, he, heq⟩
      obtain ⟨t', rfl, ht⟩ := hk _ he
      obtain ⟨rfl, rfl⟩ := Prod.mk.inj heq
      exact ⟨ht, x, he, rfl⟩
    · rintro ⟨-, x, he, rfl⟩
      exact ⟨_, he, rfl⟩

theorem map_text_named (h : (Value.map es).IsCanonical) :
    ((named es).map Prod.fst).map Value.text = es.map Prod.fst := by
  cases h with
  | map hn hk hv =>
    rw [named, List.map_map, List.map_map]
    apply List.map_congr_left
    intro e he
    obtain ⟨t, ht, -⟩ := hk e he
    simp [ht, keyText]

theorem nodup_named (h : (Value.map es).IsCanonical) : ((named es).map Prod.fst).Nodup := by
  have hn := h.nodup_keys
  rw [← map_text_named h] at hn
  exact List.Nodup.of_map _ hn

theorem partOf_inj {p q : Text × Text} {r s : Text} (hp : p.1.IsClean) (hq : q.1.IsClean)
    (h : partOf p ++ r = partOf q ++ s) : p.1 = q.1 ∧ p.2 ++ r = q.2 ++ s := by
  simp only [partOf, List.append_assoc] at h
  have hname := quote_append_inj hp hq h
  rw [hname] at h
  exact ⟨hname, List.append_cancel_left (List.append_cancel_left h)⟩

theorem mem_sorted_iff {p : Text × Text} : p ∈ sorted ps ↔ p ∈ ps :=
  (List.mergeSort_perm ps nameLe).mem_iff

/-- The parts of two texts of mappings are those of the same members. -/
theorem sorted_named_eq {r s : Text} (hes : (Value.map es).IsCanonical)
    (hfs : (Value.map fs).IsCanonical)
    (hq : ∀ e ∈ es, ∀ f ∈ fs, Separable e.2 f.2)
    (h : textOf (.map es) ++ r = textOf (.map fs) ++ s) :
    sorted (named es) = sorted (named fs) := by
  have hparts {p q : Text × Text} (hp : p ∈ sorted (named es)) (hq' : q ∈ sorted (named fs))
      {r s : Text} (hr : Text.EndsNumeral r) (hs : Text.EndsNumeral s)
      (heq : partOf p ++ r = partOf q ++ s) : p = q := by
    obtain ⟨hclean, x, hx, hpx⟩ := (mem_named_iff hes).mp (mem_sorted_iff.mp hp)
    obtain ⟨hclean', y, hy, hqy⟩ := (mem_named_iff hfs).mp (mem_sorted_iff.mp hq')
    obtain ⟨hname, hbody⟩ := partOf_inj hclean hclean' heq
    rw [hpx, hqy] at hbody
    have htext := hq _ hx _ hy r s hr hs hbody
    exact Prod.ext hname (by rw [hpx, hqy, htext])
  rw [textOf_map hes, textOf_map hfs] at h
  simp only [enclose, compact_item, List.append_assoc] at h
  have hall := (intercalate_append_inj (by decide) (endsNumeral_mark (by decide))
    (endsNumeral_mark (by decide)) (fun t ht u hu r s hr hs heq => by
      obtain ⟨p, hp, rfl⟩ := List.mem_map.mp ht
      obtain ⟨q, hq', rfl⟩ := List.mem_map.mp hu
      rw [hparts hp hq' hr hs heq])
    (avoidsMark_members _) (avoidsMark_members _) (List.append_cancel_left h)).1
  refine eq_of_map_eq (fun p hp q hq' heq => ?_) hall
  apply hparts hp hq' Text.endsNumeral_nil Text.endsNumeral_nil
  rw [heq]

theorem separable_of_isCanonical (hv : v.IsCanonical) (hw : w.IsCanonical) : Separable v w := by
  induction hv generalizing w with
  | null =>
    intro r s _ _ h
    have hkind := kind_eq .null hw h
    cases hw <;> simp [kind] at hkind
    rfl
  | bool b =>
    intro r s _ _ h
    have hkind := kind_eq (.bool b) hw h
    cases hw <;> simp [kind] at hkind
    rename_i b'
    cases b <;> cases b' <;> first | rfl | exact absurd (List.cons.inj h).1 (by decide)
  | int hm =>
    intro r s hr hs h
    have hkind := kind_eq (.int hm) hw h
    cases hw <;> simp [kind] at hkind
    rename_i hn
    rw [textOf_int hm, textOf_int hn] at h ⊢
    exact congrArg Text.ofInt (Text.ofInt_append_inj hr hs h)
  | text ht =>
    intro r s _ _ h
    have hkind := kind_eq (.text ht) hw h
    cases hw <;> simp [kind] at hkind
    rename_i hu
    exact congrArg quote (quote_append_inj ht hu h)
  | @list xs hxs ih =>
    intro r s _ _ h
    have hkind := kind_eq (.list hxs) hw h
    cases hw <;> simp [kind] at hkind
    rename_i ys hys
    have hitems := items_eq (.list hxs) (.list hys) (fun x hx y hy => ih x hx (hys y hy)) h
    rw [textOf_list (.list hxs), textOf_list (.list hys), hitems]
  | @map es hn hk hv ih =>
    intro r s _ _ h
    have hkind := kind_eq (.map hn hk hv) hw h
    cases hw <;> simp [kind] at hkind
    rename_i fs hn' hk' hv'
    have hsorted := sorted_named_eq (.map hn hk hv) (.map hn' hk' hv')
      (fun e he f hf => ih e he (hv' f hf)) h
    rw [textOf_map (.map hn hk hv), textOf_map (.map hn' hk' hv'), hsorted]

/-! ## Canonical texts and sameness -/

theorem nameLe_iff {p q : Text × Text} : nameLe p q = true ↔ List.le p.1 q.1 := by
  simp [nameLe, List.le]

/-- Members with distinct names have one canonical order. -/
theorem sorted_eq_iff_perm (hn : (ps.map Prod.fst).Nodup) :
    sorted ps = sorted qs ↔ ps.Perm qs := by
  constructor
  · intro h
    have hp := (List.mergeSort_perm ps nameLe).symm
    exact hp.trans ((List.Perm.of_eq h).trans (List.mergeSort_perm qs nameLe))
  · intro h
    have hperm : (sorted ps).Perm (sorted qs) :=
      (List.mergeSort_perm ps nameLe).trans (h.trans (List.mergeSort_perm qs nameLe).symm)
    have hpairwise (l : List (Text × Text)) : (sorted l).Pairwise fun p q => List.le p.1 q.1 := by
      have htrans : ∀ p q r : Text × Text, nameLe p q → nameLe q r → nameLe p r :=
        fun p q r hpq hqr => nameLe_iff.mpr (List.le_trans (nameLe_iff.mp hpq) (nameLe_iff.mp hqr))
      have htotal : ∀ p q : Text × Text, nameLe p q || nameLe q p := by
        intro p q
        rw [Bool.or_eq_true, nameLe_iff, nameLe_iff]
        exact List.le_total p.1 q.1
      exact (List.pairwise_mergeSort htrans htotal l).imp fun hpq => nameLe_iff.mp hpq
    refine hperm.eq_of_pairwise (fun p q hp hq hpq hqp => ?_) (hpairwise ps) (hpairwise qs)
    have hp' : p ∈ ps := mem_sorted_iff.mp hp
    have hq' : q ∈ ps := h.mem_iff.mpr (mem_sorted_iff.mp hq)
    exact List.inj_on_of_nodup_map hn hp' hq' (List.le_antisymm hpq hqp)

theorem sameJson_of_textOf_eq (hv : v.IsCanonical) (hw : w.IsCanonical) (h : textOf v = textOf w) :
    SameJson v w := by
  have hkind : kind v = kind w := kind_eq (r := []) (s := []) hv hw (by rw [h])
  induction hv generalizing w with
  | null =>
    cases hw <;> simp [kind] at hkind
    exact .null
  | bool b =>
    cases hw <;> simp [kind] at hkind
    rename_i b'
    cases b <;> cases b' <;> first | exact .bool _ | exact absurd (List.cons.inj h).1 (by decide)
  | int hm =>
    cases hw <;> simp [kind] at hkind
    rename_i hn
    rw [textOf_int hm, textOf_int hn] at h
    exact sameJson_int_iff.mpr (Text.ofInt_inj h)
  | text ht =>
    cases hw <;> simp [kind] at hkind
    rename_i hu
    exact sameJson_text_iff.mpr (quote_append_inj (r := []) (s := []) ht hu (congrArg (· ++ []) h))
  | @list xs hxs ih =>
    cases hw <;> simp [kind] at hkind
    rename_i ys hys
    have hitems := items_eq (r := []) (s := []) (.list hxs) (.list hys)
      (fun x hx y hy => separable_of_isCanonical (hxs x hx) (hys y hy)) (congrArg (· ++ []) h)
    refine .list (by simpa using congrArg List.length hitems) fun i x y hx hy => ?_
    have hi := congrArg (·[i]?) hitems
    simp only [List.getElem?_map, hx, hy, Option.map_some, Option.some.injEq] at hi
    have hx' := List.mem_of_getElem? hx
    have hy' := hys y (List.mem_of_getElem? hy)
    exact ih x hx' hy' hi (kind_eq (r := []) (s := []) (hxs x hx') hy' (congrArg (· ++ []) hi))
  | @map es hn hk hv ih =>
    cases hw <;> simp [kind] at hkind
    rename_i fs hn' hk' hv'
    have hes : (Value.map es).IsCanonical := .map hn hk hv
    have hfs : (Value.map fs).IsCanonical := .map hn' hk' hv'
    have hsorted := sorted_named_eq (r := []) (s := []) hes hfs
      (fun e he f hf => separable_of_isCanonical (hv e he) (hv' f hf)) (congrArg (· ++ []) h)
    have hperm := (sorted_eq_iff_perm (nodup_named hes)).mp hsorted
    refine .map ?_ fun k x y hx hy => ?_
    · rw [← map_text_named hes, ← map_text_named hfs]
      exact (hperm.map Prod.fst).map Value.text
    · obtain ⟨t, rfl, ht⟩ := hk _ hx
      have hx' : (t, textOf x) ∈ named fs :=
        hperm.mem_iff.mp ((mem_named_iff hes).mpr ⟨ht, x, hx, rfl⟩)
      have hy' : (t, textOf y) ∈ named fs := (mem_named_iff hfs).mpr ⟨ht, y, hy, rfl⟩
      have htext : textOf x = textOf y :=
        congrArg Prod.snd (List.inj_on_of_nodup_map (nodup_named hfs) hx' hy' rfl)
      have hcanonical := hv' _ hy
      exact ih _ hx hcanonical htext
        (kind_eq (r := []) (s := []) (hv _ hx) hcanonical (congrArg (· ++ []) htext))

theorem named_subset (hes : (Value.map es).IsCanonical) (hfs : (Value.map fs).IsCanonical)
    (hk : (es.map Prod.fst).Perm (fs.map Prod.fst))
    (h : ∀ k x y, (k, x) ∈ es → (k, y) ∈ fs → textOf x = textOf y) : named es ⊆ named fs := by
  intro p hp
  obtain ⟨hclean, x, hx, hpx⟩ := (mem_named_iff hes).mp hp
  obtain ⟨⟨k, y⟩, hy, hkey⟩ := List.mem_map.mp (hk.mem_iff.mp (List.mem_map_of_mem hx))
  obtain rfl : k = .text p.1 := hkey
  exact (mem_named_iff hfs).mpr ⟨hclean, y, hy, hpx.trans (h _ x y hx hy)⟩

theorem textOf_eq_of_sameJson (hv : v.IsCanonical) (hw : w.IsCanonical) (h : SameJson v w) :
    textOf v = textOf w := by
  induction h with
  | null | bool | int | float | text => rfl
  | @list xs ys hl h ih =>
    rw [textOf_list hv, textOf_list hw]
    congr 1
    refine List.ext_getElem? fun i => ?_
    rw [List.getElem?_map, List.getElem?_map]
    cases hx : xs[i]? with
    | none =>
      have hy : ys[i]? = none := by
        rw [List.getElem?_eq_none_iff] at hx ⊢
        omega
      rw [hy]
    | some x =>
      obtain ⟨y, hy⟩ : ∃ y, ys[i]? = some y := by
        have hi := (List.getElem?_eq_some_iff.mp hx).1
        exact ⟨_, List.getElem?_eq_getElem (hl ▸ hi)⟩
      rw [hy, Option.map_some, Option.map_some, ih i x y hx hy
        (hv.of_mem_list (List.mem_of_getElem? hx)) (hw.of_mem_list (List.mem_of_getElem? hy))]
  | @map es fs hk h ih =>
    have hsame : ∀ k x y, (k, x) ∈ es → (k, y) ∈ fs → textOf x = textOf y :=
      fun k x y hx hy => ih k x y hx hy (hv.of_mem_map hx) (hw.of_mem_map hy)
    have hnodup := List.Nodup.of_map _ (nodup_named hv)
    have hnodup' := List.Nodup.of_map _ (nodup_named hw)
    have hperm : (named es).Perm (named fs) := by
      refine (List.perm_ext_iff_of_nodup hnodup hnodup').mpr fun p => ⟨fun hp => ?_, fun hp => ?_⟩
      · exact named_subset hv hw hk hsame hp
      · exact named_subset hw hv hk.symm (fun k y x hy hx => (hsame k x y hx hy).symm) hp
    rw [textOf_map hv, textOf_map hw, (sorted_eq_iff_perm (nodup_named hv)).mpr hperm]

/-- Two values are the same JSON exactly when they have the same canonical text. -/
theorem textOf_eq_iff (hv : v.IsCanonical) (hw : w.IsCanonical) :
    textOf v = textOf w ↔ SameJson v w :=
  ⟨sameJson_of_textOf_eq hv hw, textOf_eq_of_sameJson hv hw⟩

/-! ## Canonical texts are ASCII -/

theorem isAscii_enclose {opening closing : String} (ho : IsAscii opening.toText)
    (hc : IsAscii closing.toText) {ts : List Text} (h : ∀ t ∈ ts, IsAscii t) :
    IsAscii (enclose opening closing compact ts) :=
  (ho.append (isAscii_intercalate (by decide) h)).append hc

theorem isAscii_textOf (h : v.IsCanonical) : IsAscii (textOf v) := by
  induction h with
  | null => decide
  | bool b => cases b <;> decide
  | int h =>
    rw [textOf_int h]
    exact isAscii_ofInt _
  | text => exact isAscii_quote _
  | list h ih =>
    rw [textOf_list (.list h)]
    apply isAscii_enclose (by decide) (by decide)
    intro t ht
    obtain ⟨x, hx, rfl⟩ := List.mem_map.mp ht
    exact ih x hx
  | map hn hk hv ih =>
    have hes := IsCanonical.map hn hk hv
    rw [textOf_map hes]
    apply isAscii_enclose (by decide) (by decide)
    intro t ht
    obtain ⟨p, hp, rfl⟩ := List.mem_map.mp ht
    obtain ⟨-, x, hx, hpx⟩ := (mem_named_iff hes).mp (mem_sorted_iff.mp hp)
    rw [partOf, hpx]
    exact ((isAscii_quote _).append (by decide)).append (ih _ hx)

end Json

end SubscriptionClient
