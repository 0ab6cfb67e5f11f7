import Mathlib.Data.List.Nodup
import SubscriptionClient.Proofs.Text.Clean
import SubscriptionClient.Value.Basic

/-!
# Values as JSON

Plain values are those that JSON itself has: null, truth values, integers, texts, lists, and
mappings from distinct texts. Two of them are the same JSON when they differ only in the order of
members, at any depth.
-/

namespace SubscriptionClient.Value

/-- Whether a value is built as JSON values are, from texts without surrogate pairs. -/
inductive IsPlain : Value → Prop where
  | null : IsPlain .null
  | bool (b : Bool) : IsPlain (.bool b)
  | int (n : Int) : IsPlain (.int n)
  | text {t : Text} (h : t.IsClean) : IsPlain (.text t)
  | list {items : List Value} (h : ∀ v ∈ items, IsPlain v) : IsPlain (.list items)
  | map {members : List (Value × Value)} (hn : (members.map Prod.fst).Nodup)
    (hk : ∀ e ∈ members, ∃ t, e.1 = .text t ∧ t.IsClean) (hv : ∀ e ∈ members, IsPlain e.2) :
    IsPlain (.map members)

/-- Whether two values are the same JSON up to the order of members at every depth. -/
inductive SameJson : Value → Value → Prop where
  | null : SameJson .null .null
  | bool (b : Bool) : SameJson (.bool b) (.bool b)
  | int (n : Int) : SameJson (.int n) (.int n)
  | float (x : Double) : SameJson (.float x) (.float x)
  | text (t : Text) : SameJson (.text t) (.text t)
  | list {xs ys : List Value} (hl : xs.length = ys.length)
    (h : ∀ (i : Nat) (x y : Value), xs[i]? = some x → ys[i]? = some y → SameJson x y) :
    SameJson (.list xs) (.list ys)
  | map {es fs : List (Value × Value)} (hk : (es.map Prod.fst).Perm (fs.map Prod.fst))
    (h : ∀ k x y, (k, x) ∈ es → (k, y) ∈ fs → SameJson x y) :
    SameJson (.map es) (.map fs)

variable {v w : Value} {xs ys : List Value} {es fs : List (Value × Value)}

theorem IsPlain.of_mem_list (h : IsPlain (.list xs)) {x : Value} (hx : x ∈ xs) : IsPlain x := by
  cases h with
  | list h => exact h x hx

theorem IsPlain.of_mem_map (h : IsPlain (.map es)) {e : Value × Value} (he : e ∈ es) :
    IsPlain e.2 := by
  cases h with
  | map hn hk hv => exact hv e he

theorem IsPlain.nodup_keys (h : IsPlain (.map es)) : (es.map Prod.fst).Nodup := by
  cases h with
  | map hn hk hv => exact hn

theorem eq_of_mem_of_mem (hn : (es.map Prod.fst).Nodup) {k x y : Value} (hx : (k, x) ∈ es)
    (hy : (k, y) ∈ es) : x = y :=
  congrArg Prod.snd (List.inj_on_of_nodup_map hn hx hy rfl)

theorem IsPlain.sameJson_refl (h : v.IsPlain) : SameJson v v := by
  induction h with
  | null => exact .null
  | bool b => exact .bool b
  | int n => exact .int n
  | text => exact .text _
  | list h ih =>
    refine .list rfl fun i x y hx hy => ?_
    obtain rfl := Option.some.inj (hx.symm.trans hy)
    exact ih x (List.mem_of_getElem? hx)
  | map hn hk hv ih =>
    refine .map (List.Perm.refl _) fun k x y hx hy => ?_
    obtain rfl := eq_of_mem_of_mem hn hx hy
    exact ih _ hx

theorem sameJson_text_iff {t u : Text} : SameJson (.text t) (.text u) ↔ t = u := by
  constructor
  · intro h
    cases h
    rfl
  · rintro rfl
    exact .text t

theorem sameJson_nil : SameJson (.list []) (.list []) := .list rfl nofun

theorem sameJson_cons_iff {x y : Value} :
    SameJson (.list (x :: xs)) (.list (y :: ys)) ↔ SameJson x y ∧ SameJson (.list xs) (.list ys) := by
  constructor
  · intro h
    cases h with
    | list hl h =>
      refine ⟨h 0 x y rfl rfl, .list (Nat.succ.inj hl) fun i x' y' hx hy => ?_⟩
      exact h (i + 1) x' y' hx hy
  · rintro ⟨hxy, h⟩
    cases h with
    | list hl h =>
      refine .list (congrArg Nat.succ hl) fun i x' y' hx hy => ?_
      cases i with
      | zero =>
        obtain rfl := Option.some.inj hx
        obtain rfl := Option.some.inj hy
        exact hxy
      | succ i => exact h i x' y' hx hy

theorem sameJson_int_iff {m n : Int} : SameJson (.int m) (.int n) ↔ m = n := by
  constructor
  · intro h
    cases h
    rfl
  · rintro rfl
    exact .int m

/-! ## Records -/

/-- Two values of a field that may be left out. -/
structure FieldPair where
  name : String
  first : Option Value
  second : Option Value

/-- The members of a record of which some fields are left out. -/
def present (fields : List (String × Option Value)) : List (Value × Value) :=
  fields.filterMap fun f => f.2.map fun v => (.text f.1.toText, v)

theorem mem_present_iff {α : Type} {name : α → String} {field : α → Option Value} {l : List α}
    {k x : Value} : (k, x) ∈ present (l.map fun a => (name a, field a)) ↔
      ∃ a ∈ l, k = .text (name a).toText ∧ field a = some x := by
  simp only [present, List.filterMap_map, List.mem_filterMap, Function.comp_apply,
    Option.map_eq_some_iff, Prod.mk.injEq]
  constructor
  · rintro ⟨a, ha, x, hx, rfl, rfl⟩
    exact ⟨a, ha, rfl, hx⟩
  · rintro ⟨a, ha, rfl, hx⟩
    exact ⟨a, ha, x, hx, rfl, rfl⟩

namespace FieldPair

variable {fields : List FieldPair}

def firstRecord (fields : List FieldPair) : List (Value × Value) :=
  present (fields.map fun f => (f.name, f.first))

def secondRecord (fields : List FieldPair) : List (Value × Value) :=
  present (fields.map fun f => (f.name, f.second))

theorem eq_of_name_eq (hn : (fields.map fun f => f.name.toText).Nodup) {f g : FieldPair}
    (hf : f ∈ fields) (hg : g ∈ fields) (h : Value.text f.name.toText = .text g.name.toText) :
    f = g :=
  List.inj_on_of_nodup_map hn hf hg (Value.text.inj h)

theorem isSome_iff_of_perm (hn : (fields.map fun f => f.name.toText).Nodup)
    (hk : ((firstRecord fields).map Prod.fst).Perm ((secondRecord fields).map Prod.fst))
    {f : FieldPair} (hf : f ∈ fields) : (∃ x, f.first = some x) ↔ ∃ y, f.second = some y := by
  constructor
  · rintro ⟨x, hx⟩
    have hmem : (.text f.name.toText, x) ∈ firstRecord fields :=
      mem_present_iff.mpr ⟨f, hf, rfl, hx⟩
    obtain ⟨⟨k, y⟩, hy, rfl⟩ := List.mem_map.mp (hk.mem_iff.mp (List.mem_map_of_mem hmem))
    obtain ⟨g, hg, hname, hsecond⟩ := mem_present_iff.mp hy
    obtain rfl := eq_of_name_eq hn hf hg hname
    exact ⟨y, hsecond⟩
  · rintro ⟨y, hy⟩
    have hmem : (.text f.name.toText, y) ∈ secondRecord fields :=
      mem_present_iff.mpr ⟨f, hf, rfl, hy⟩
    obtain ⟨⟨k, x⟩, hx, rfl⟩ := List.mem_map.mp (hk.mem_iff.mpr (List.mem_map_of_mem hmem))
    obtain ⟨g, hg, hname, hfirst⟩ := mem_present_iff.mp hx
    obtain rfl := eq_of_name_eq hn hf hg hname
    exact ⟨x, hfirst⟩

/-- Two records are the same JSON when their fields are. -/
theorem sameJson_iff (hn : (fields.map fun f => f.name.toText).Nodup) :
    SameJson (.map (firstRecord fields)) (.map (secondRecord fields)) ↔
      ∀ f ∈ fields, Option.Rel SameJson f.first f.second := by
  constructor
  · intro h f hf
    cases h with
    | map hk h =>
      have hsome := isSome_iff_of_perm hn hk hf
      cases hfirst : f.first with
      | none =>
        cases hsecond : f.second with
        | none => exact .none
        | some y => simp [hfirst, hsecond] at hsome
      | some x =>
        cases hsecond : f.second with
        | none => simp [hfirst, hsecond] at hsome
        | some y =>
          exact .some (h _ x y (mem_present_iff.mpr ⟨f, hf, rfl, hfirst⟩)
            (mem_present_iff.mpr ⟨f, hf, rfl, hsecond⟩))
  · intro h
    refine .map ?_ ?_
    · have hkeys : (firstRecord fields).map Prod.fst = (secondRecord fields).map Prod.fst := by
        simp only [firstRecord, secondRecord, present, List.filterMap_map, List.map_filterMap]
        apply List.filterMap_congr
        intro f hf
        have hrel := h f hf
        simp only [Function.comp_apply, Option.map_map]
        cases hfirst : f.first <;> cases hsecond : f.second <;> rw [hfirst, hsecond] at hrel <;>
          first | rfl | cases hrel
      rw [hkeys]
    · intro k x y hx hy
      obtain ⟨f, hf, rfl, hfirst⟩ := mem_present_iff.mp hx
      obtain ⟨g, hg, hname, hsecond⟩ := mem_present_iff.mp hy
      obtain rfl := eq_of_name_eq hn hf hg hname
      have hrel := h f hf
      rw [hfirst, hsecond] at hrel
      cases hrel with
      | some hxy => exact hxy

end FieldPair

theorem exists_fieldPairs {fs gs : List (String × Option Value)}
    (h : fs.map Prod.fst = gs.map Prod.fst) :
    ∃ l : List FieldPair, l.map (fun p => (p.name, p.first)) = fs ∧
      l.map (fun p => (p.name, p.second)) = gs := by
  induction fs generalizing gs with
  | nil =>
    have hgs : gs = [] := List.map_eq_nil_iff.mp h.symm
    exact ⟨[], rfl, hgs.symm⟩
  | cons f fs ih =>
    cases gs with
    | nil => cases h
    | cons g gs =>
      obtain ⟨hname, hrest⟩ := List.cons.inj h
      obtain ⟨l, rfl, rfl⟩ := ih hrest
      refine ⟨⟨f.1, f.2, g.2⟩ :: l, rfl, ?_⟩
      rw [List.map_cons, hname]

/-- Two records with the same names are the same JSON when their fields are. -/
theorem sameJson_present_iff {fs gs : List (String × Option Value)} (names : List String)
    (hn : (names.map String.toText).Nodup) (hf : fs.map Prod.fst = names)
    (hg : gs.map Prod.fst = names) :
    SameJson (.map (present fs)) (.map (present gs)) ↔
      List.Forall₂ (fun f g => Option.Rel SameJson f.2 g.2) fs gs := by
  obtain ⟨l, rfl, rfl⟩ := exists_fieldPairs (hf.trans hg.symm)
  have hl : (l.map fun p => p.name.toText).Nodup := by
    rw [← hf, List.map_map, List.map_map] at hn
    exact hn
  rw [List.forall₂_map_left_iff, List.forall₂_map_right_iff, List.forall₂_same]
  exact FieldPair.sameJson_iff hl

theorem record_eq (fields : List (String × Value)) :
    record fields = .map (present (fields.map fun f => (f.1, some f.2))) := by
  rw [record, present, List.filterMap_map]
  congr 1
  rw [← List.filterMap_eq_map]
  rfl

theorem sameJson_record_iff {fs gs : List (String × Value)} (names : List String)
    (hn : (names.map String.toText).Nodup) (hf : fs.map Prod.fst = names)
    (hg : gs.map Prod.fst = names) :
    SameJson (record fs) (record gs) ↔ List.Forall₂ (fun f g => SameJson f.2 g.2) fs gs := by
  rw [record_eq, record_eq, sameJson_present_iff names hn (by rwa [List.map_map])
    (by rwa [List.map_map]), List.forall₂_map_left_iff, List.forall₂_map_right_iff]
  simp only [Option.rel_some_some]

/-! ## Values that may be null -/

theorem eq_null_of_isNull (h : v.isNull = true) : v = .null := by
  cases v <;> first | rfl | cases h

theorem isNull_eq_false (h : v ≠ .null) : v.isNull = false := by
  rw [← Bool.not_eq_true]
  exact fun hnull => h (eq_null_of_isNull hnull)

def nonNull? : Value → Option Value
  | .null => none
  | v => some v

theorem rel_nonNull?_iff : Option.Rel SameJson v.nonNull? w.nonNull? ↔ SameJson v w := by
  constructor
  · intro h
    cases v <;> cases w <;> cases h <;> first | assumption | exact .null
  · intro h
    cases h with
    | null => exact .none
    | bool b => exact .some (.bool b)
    | int n => exact .some (.int n)
    | float x => exact .some (.float x)
    | text t => exact .some (.text t)
    | list hl h => exact .some (.list hl h)
    | map hk h => exact .some (.map hk h)

end SubscriptionClient.Value
