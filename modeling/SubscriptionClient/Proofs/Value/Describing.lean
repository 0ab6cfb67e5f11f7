import Mathlib.Data.List.Nodup
import SubscriptionClient.Proofs.Text.Numerals
import SubscriptionClient.Value.Json

/-!
# Describing what the backend sends

The bodies of answers are JSON, with doubles, and with whatever code points their texts hold. Such a
value has a canonical text in every layout, and can be described, exactly when none of its integers
has too many digits. That takes no more than that mappings name their members by texts.
-/

namespace SubscriptionClient

namespace Value

/-- Whether a value is built as the values of JSON are. -/
inductive IsJson : Value → Prop where
  | null : IsJson .null
  | bool (b : Bool) : IsJson (.bool b)
  | int (n : Int) : IsJson (.int n)
  | float (x : Double) : IsJson (.float x)
  | text (t : Text) : IsJson (.text t)
  | list {items : List Value} (h : ∀ v ∈ items, IsJson v) : IsJson (.list items)
  | map {members : List (Value × Value)} (hn : (members.map Prod.fst).Nodup)
    (hk : ∀ e ∈ members, ∃ t, e.1 = .text t) (hv : ∀ e ∈ members, IsJson e.2) :
    IsJson (.map members)

/-- Whether every mapping in a value names its members by texts. -/
inductive IsTextKeyed : Value → Prop where
  | null : IsTextKeyed .null
  | bool (b : Bool) : IsTextKeyed (.bool b)
  | int (n : Int) : IsTextKeyed (.int n)
  | float (x : Double) : IsTextKeyed (.float x)
  | text (t : Text) : IsTextKeyed (.text t)
  | bytes (bs : List UInt8) : IsTextKeyed (.bytes bs)
  | decimal (d : Decimal) : IsTextKeyed (.decimal d)
  | dateTime (t : DateTime) : IsTextKeyed (.dateTime t)
  | list {items : List Value} (h : ∀ v ∈ items, IsTextKeyed v) : IsTextKeyed (.list items)
  | map {members : List (Value × Value)} (hk : ∀ e ∈ members, ∃ t, e.1 = .text t)
    (hv : ∀ e ∈ members, IsTextKeyed e.2) : IsTextKeyed (.map members)

variable {v x : Value} {xs : List Value} {es : List (Value × Value)}

theorem IsJson.isTextKeyed (h : v.IsJson) : v.IsTextKeyed := by
  induction h with
  | null => exact .null
  | bool b => exact .bool b
  | int n => exact .int n
  | float x => exact .float x
  | text t => exact .text t
  | list _ ih => exact .list ih
  | map _ hk _ ih => exact .map hk ih

theorem IsJson.of_mem_list (h : IsJson (.list xs)) (hx : x ∈ xs) : x.IsJson := by
  cases h with
  | list h => exact h x hx

theorem IsJson.keys_text (h : IsJson (.map es)) : ∀ e ∈ es, ∃ t, e.1 = .text t := by
  cases h with
  | map hn hk hv => exact hk

theorem IsJson.nodup_keys (h : IsJson (.map es)) : (es.map Prod.fst).Nodup := by
  cases h with
  | map hn hk hv => exact hn

theorem mem_of_find? {key : Value} (h : find? key es = some x) : ∃ k, (k, x) ∈ es := by
  induction es with
  | nil => cases h
  | cons e es ih =>
    obtain ⟨k, y⟩ := e
    rw [find?] at h
    split at h
    · cases h
      exact ⟨k, List.mem_cons_self⟩
    · obtain ⟨k', hk'⟩ := ih h
      exact ⟨k', List.mem_cons_of_mem _ hk'⟩

theorem IsJson.of_member? {name : String} (h : IsJson (.map es)) (hx : member? name es = some x) :
    x.IsJson := by
  obtain ⟨k, hk⟩ := mem_of_find? hx
  cases h with
  | map hn hkeys hv => exact hv _ hk

theorem IsJson.of_members {name : String} (h : v.IsJson) (hx : member? name v.members = some x) :
    x.IsJson := by
  cases h with
  | map hn hk hv => exact (IsJson.map hn hk hv).of_member? hx
  | null | bool | int | float | text | list => cases hx

theorem isJson_record {fields : List (String × Value)}
    (hn : (fields.map fun f => f.1.toText).Nodup) (hv : ∀ f ∈ fields, f.2.IsJson) :
    (record fields).IsJson := by
  refine .map ?_ ?_ ?_
  · have htexts := List.Nodup.map (f := Value.text) (fun _ _ => Value.text.inj) hn
    rw [List.map_map] at htexts ⊢
    exact htexts
  · intro e he
    obtain ⟨f, -, rfl⟩ := List.mem_map.mp he
    exact ⟨_, rfl⟩
  · intro e he
    obtain ⟨f, hf, rfl⟩ := List.mem_map.mp he
    exact hv f hf

theorem isTextKeyed_record {fields : List (String × Value)}
    (hv : ∀ f ∈ fields, f.2.IsTextKeyed) : (record fields).IsTextKeyed := by
  refine .map ?_ ?_
  · intro e he
    obtain ⟨f, -, rfl⟩ := List.mem_map.mp he
    exact ⟨_, rfl⟩
  · intro e he
    obtain ⟨f, hf, rfl⟩ := List.mem_map.mp he
    exact hv f hf

end Value

/-! ## Attempts under a condition -/

theorem mapM_eq_ok {ε α β : Type} {f : α → Except ε β} {g : α → β} {l : List α}
    (h : ∀ x ∈ l, f x = .ok (g x)) : l.mapM f = .ok (l.map g) := by
  induction l with
  | nil => rfl
  | cons x l ih =>
    rw [List.mapM_cons, h x List.mem_cons_self, ih fun y hy => h y (List.mem_cons_of_mem x hy)]
    rfl

/-- Whether an attempt succeeds under a condition and only then, and otherwise fails with `e`. -/
structure SucceedsIff {ε α : Type} (e : ε) (p : Prop) (a : Except ε α) : Prop where
  ok : p → ∃ x, a = .ok x
  error : ¬p → a = .error e

namespace SucceedsIff

variable {ε ε' α β : Type} {e : ε} {p q : Prop} {a : Except ε α}

theorem congr (h : SucceedsIff e p a) (hpq : q ↔ p) : SucceedsIff e q a :=
  ⟨fun hq => h.ok (hpq.mp hq), fun hq => h.error (mt hpq.mpr hq)⟩

theorem of_ok {x : α} (hp : p) (h : a = .ok x) : SucceedsIff e p a :=
  ⟨fun _ => ⟨x, h⟩, fun hno => (hno hp).elim⟩

theorem map (h : SucceedsIff e p a) (f : α → β) : SucceedsIff e p (a.map f) := by
  refine ⟨fun hp => ?_, fun hp => ?_⟩
  · obtain ⟨x, hx⟩ := h.ok hp
    exact ⟨f x, by rw [hx, Except.map]⟩
  · rw [h.error hp, Except.map]

theorem bind (h : SucceedsIff e p a) {f : α → Except ε β} (hf : ∀ x, SucceedsIff e q (f x)) :
    SucceedsIff e (p ∧ q) (a >>= f) := by
  by_cases hp : p
  · obtain ⟨x, hx⟩ := h.ok hp
    rw [hx]
    exact (hf x).congr (and_iff_right hp)
  · rw [h.error hp]
    exact ⟨fun hpq => (hp hpq.1).elim, fun _ => rfl⟩

theorem mapM {f : β → Except ε α} {p : β → Prop} {l : List β}
    (h : ∀ x ∈ l, SucceedsIff e (p x) (f x)) : SucceedsIff e (∀ x ∈ l, p x) (l.mapM f) := by
  induction l with
  | nil => exact .of_ok nofun rfl
  | cons x l ih =>
    rw [List.mapM_cons]
    have hrest := ih fun y hy => h y (List.mem_cons_of_mem x hy)
    exact ((h x List.mem_cons_self).bind fun t => hrest.map (t :: ·)).congr List.forall_mem_cons

theorem ok_iff (h : SucceedsIff e p a) : (∃ x, a = .ok x) ↔ p := by
  refine ⟨fun hx => ?_, h.ok⟩
  by_contra hp
  obtain ⟨x, hx⟩ := hx
  cases (h.error hp).symm.trans hx

end SucceedsIff

/-! ## Integers that can be written -/

theorem Numeral.succeedsIff_write? (n : Int) :
    SucceedsIff .tooManyDigits (isWritable n = true) (Misuse.ofWritten (write? n)) := by
  rw [write?]
  cases isWritable n with
  | true => exact .of_ok rfl rfl
  | false => exact ⟨nofun, fun _ => rfl⟩

namespace Value

variable {v x : Value} {xs : List Value} {es : List (Value × Value)}

theorem isWritable_of_isNull (h : v.isNull = true) : v.isWritable = true := by
  cases v <;> first | rfl | cases h

theorem isWritable_list_iff : (list xs).isWritable = true ↔ ∀ x ∈ xs, x.isWritable = true := by
  rw [isWritable]
  induction xs with
  | nil => simp [areWritable]
  | cons x xs ih => rw [areWritable, Bool.and_eq_true, ih, List.forall_mem_cons]

theorem isWritable_map_iff : (map es).isWritable = true ↔
    ∀ e ∈ es, e.1.isWritable = true ∧ e.2.isWritable = true := by
  rw [isWritable]
  induction es with
  | nil => simp [membersAreWritable]
  | cons e es ih =>
    obtain ⟨k, v⟩ := e
    rw [membersAreWritable, Bool.and_eq_true, Bool.and_eq_true, ih, List.forall_mem_cons]

theorem isWritable_of_member? {name : String} (h : v.isWritable = true)
    (hx : member? name v.members = some x) : x.isWritable = true := by
  obtain ⟨k, hk⟩ := mem_of_find? hx
  cases v with
  | map es => exact (isWritable_map_iff.mp h _ hk).2
  | null | bool | int | float | text | bytes | decimal | dateTime | list => cases hk

theorem isWritable_of_huge {name : String}
    (hx : member? name v.members = some (.int Numeral.huge)) : v.isWritable = false := by
  rw [← Bool.not_eq_true]
  intro hw
  have hhuge := isWritable_of_member? hw hx
  rw [isWritable, Numeral.isWritable_huge] at hhuge
  cases hhuge

end Value

/-! ## Values that can be written -/

namespace Json

variable (layout : Layout) {v : Value} {xs : List Value} {es : List (Value × Value)}
  {ms : List Member}

theorem writeItems?_eq_mapM (xs : List Value) :
    writeItems? layout xs = xs.mapM (write? layout) := by
  induction xs with
  | nil => rfl
  | cons x xs ih => rw [writeItems?, List.mapM_cons, ih]

theorem members_eq_map : members layout es = es.map fun e => ⟨e.1, write? layout e.2⟩ := by
  induction es with
  | nil => rw [members, List.map_nil]
  | cons e es ih => rw [members, ih, List.map_cons]

theorem arrange?_of_text (h : ∀ m ∈ ms, ∃ t, m.key = .text t) :
    arrange? ms = .ok (ms.mergeSort Member.le) := by
  apply if_pos
  refine List.all_eq_true.mpr fun m hm => ?_
  obtain ⟨t, ht⟩ := h m hm
  rw [Member.text?, ht]
  rfl

theorem succeedsIff_memberText {m : Member} {t : Text} {p : Prop} (ht : m.key = .text t)
    (h : SucceedsIff .tooManyDigits p m.body) :
    SucceedsIff .tooManyDigits p (memberText layout m) := by
  rw [memberText, ht]
  exact h.map (quote t ++ layout.name ++ ·)

theorem succeedsIff_write?_map (hk : ∀ e ∈ es, ∃ t, e.1 = .text t)
    (hv : ∀ e ∈ es, SucceedsIff .tooManyDigits (e.2.isWritable = true) (write? layout e.2)) :
    SucceedsIff .tooManyDigits ((Value.map es).isWritable = true) (write? layout (.map es)) := by
  have hmem {m : Member} (hm : m ∈ (members layout es).mergeSort Member.le) :
      ∃ e ∈ es, ⟨e.1, write? layout e.2⟩ = m :=
    List.mem_map.mp (members_eq_map layout ▸ List.mem_mergeSort.mp hm)
  have hkeys : ∀ m ∈ members layout es, ∃ t, m.key = .text t := by
    rw [members_eq_map]
    exact List.forall_mem_map.mpr hk
  have htexts := SucceedsIff.mapM (e := Misuse.tooManyDigits) (f := memberText layout)
    (p := fun m => ∃ t, m.body = .ok t) (l := (members layout es).mergeSort Member.le) <| by
      intro m hm
      obtain ⟨e, he, rfl⟩ := hmem hm
      obtain ⟨t, ht⟩ := hk e he
      exact succeedsIff_memberText layout ht ((hv e he).congr (hv e he).ok_iff)
  have hall : (Value.map es).isWritable = true ↔
      ∀ m ∈ (members layout es).mergeSort Member.le, ∃ t, m.body = .ok t := by
    simp only [List.mem_mergeSort, members_eq_map, List.forall_mem_map, Value.isWritable_map_iff]
    refine forall₂_congr fun e he => ?_
    obtain ⟨t, ht⟩ := hk e he
    rw [(hv e he).ok_iff, ht]
    exact and_iff_right rfl
  rw [write?, arrange?_of_text hkeys]
  exact (htexts.congr hall).map (enclose "\x7b" "\x7d" layout)

theorem succeedsIff_write? (h : v.IsTextKeyed) :
    SucceedsIff .tooManyDigits (v.isWritable = true) (write? layout v) := by
  induction h with
  | null | bool | float | text | bytes | decimal | dateTime =>
    exact .of_ok rfl (by rw [write?])
  | int n =>
    rw [write?, Value.isWritable]
    exact Numeral.succeedsIff_write? n
  | list h ih =>
    rw [write?, writeItems?_eq_mapM]
    exact ((SucceedsIff.mapM ih).congr Value.isWritable_list_iff).map _
  | map hk hv ih => exact succeedsIff_write?_map layout hk ih

end Json

/-- A value that cannot be written in one form cannot be written in the other either. -/
theorem Value.IsTextKeyed.succeedsIff_describe? (limit : Option Int) {v : Value}
    (h : v.IsTextKeyed) :
    SucceedsIff .tooManyDigits (v.isWritable = true) (v.describe? limit) := by
  have hwrite := Json.succeedsIff_write? Json.spaced h
  refine ⟨fun hv => ?_, fun hv => ?_⟩
  · obtain ⟨t, ht⟩ := hwrite.ok hv
    exact ⟨cut limit t, by rw [describe?, ht]⟩
  · rw [describe?, hwrite.error hv, literal?, if_neg hv]
    rfl

end SubscriptionClient
