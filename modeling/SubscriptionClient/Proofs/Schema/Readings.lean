import SubscriptionClient.Proofs.Body.Fields
import SubscriptionClient.Proofs.Value.Describing
import SubscriptionClient.Proofs.Value.SameJson

/-!
# What JSON is read as

A schema tells what a JSON value may be read as: a list item by item, a mapping member by member and
in its order, a record field by field, each from the member of its name. Decoding finds just that.
Members that come to one name, which decoding merges, are not met with in JSON.
-/

namespace SubscriptionClient

/-- What a member that may be absent or null is read as. -/
inductive IsOptionally {α : Type} (reads : Value → α → Prop) : Option Value → Option α → Prop where
  | absent : IsOptionally reads none none
  | null : IsOptionally reads (some .null) none
  | value {v : Value} {a : α} (hv : v ≠ .null) (h : reads v a) :
    IsOptionally reads (some v) (some a)

/-- What a field holds: what its member is read as, or a blank if it may do without one. -/
def IsHeld {α : Type} (reads : Value → α → Prop) (required : Bool) (blank : α) :
    Option Value → α → Prop
  | some v, a => reads v a
  | none, a => required = false ∧ a = blank

/-- A member of a mapping and what it is read as under its name. -/
def IsNamed {α : Type} (reads : Value → α → Prop) (e : Value × Value) (x : Text × α) : Prop :=
  e.1 = .text x.1 ∧ reads e.2 x.2

mutual

def Schema.Reads : (s : Schema) → Value → s.Denotes → Prop
  | .text, v, t => v = .text t
  | .integer, v, n => Scalar.integer v = .ok n
  | .boolean, v, b => Scalar.boolean v = .ok b
  | .dateTime, v, t => Scalar.dateTime v = .ok t
  | .anything, v, w => v = w
  | .nullable s, v, x => IsOptionally s.Reads (some v) x
  | .list s, v, xs => ∃ vs, v = .list vs ∧ List.Forall₂ s.Reads vs xs
  | .mapping s, v, xs => ∃ es, v = .map es ∧ List.Forall₂ (IsNamed s.Reads) es xs
  -- what a screen lets through need not be JSON, so it is left to decoding
  | .screened screen s, v, x => ∃ w, screen v = some w ∧ s.decode w = .ok x
  | .record fields, v, x => ∃ es, v = .map es ∧ fields.Reads es x

def Fields.Reads : (fields : Fields) → List (Value × Value) → fields.Denotes → Prop
  | .none, _, _ => True
  | .field name required s rest, es, x =>
    IsHeld s.Reads required s.blank (Value.member? name es) x.1 ∧ rest.Reads es x.2

end

section Held

variable {α : Type} {reads reads' : Value → α → Prop} {required : Bool} {blank a : α}
  {x : Option α} {m : Option Value}

theorem isHeld_congr (h : ∀ v ∈ m, (reads v a ↔ reads' v a)) :
    IsHeld reads required blank m a ↔ IsHeld reads' required blank m a := by
  cases m with
  | none => exact Iff.rfl
  | some v => exact h v rfl

theorem isOptionally_congr (h : ∀ v ∈ m, ∀ a, reads v a ↔ reads' v a) :
    IsOptionally reads m x ↔ IsOptionally reads' m x := by
  constructor
  · rintro (_ | _ | ⟨hv, hread⟩)
    · exact .absent
    · exact .null
    · exact .value hv ((h _ rfl _).mp hread)
  · rintro (_ | _ | ⟨hv, hread⟩)
    · exact .absent
    · exact .null
    · exact .value hv ((h _ rfl _).mpr hread)

theorem isHeld_required_iff :
    IsHeld reads true blank m a ↔ ∃ v, m = some v ∧ reads v a := by
  cases m with
  | none => simp [IsHeld]
  | some v => simp [IsHeld]

theorem isHeld_optionally_iff :
    IsHeld (fun v => IsOptionally reads (some v)) false none m x ↔ IsOptionally reads m x := by
  cases m with
  | some v => exact Iff.rfl
  | none =>
    constructor
    · rintro ⟨-, rfl⟩
      exact .absent
    · rintro ⟨⟩
      exact ⟨rfl, rfl⟩

end Held

/-! ## Decoding finds what JSON is read as -/

theorem forall₂_congr_of_mem {α β : Type} {R S : α → β → Prop} {as : List α} {bs : List β}
    (h : ∀ a ∈ as, ∀ b, R a b ↔ S a b) : List.Forall₂ R as bs ↔ List.Forall₂ S as bs := by
  induction as generalizing bs with
  | nil => rw [List.forall₂_nil_left_iff, List.forall₂_nil_left_iff]
  | cons a as ih =>
    obtain ⟨ha, has⟩ := List.forall_mem_cons.mp h
    simp only [List.forall₂_cons_left_iff, ha, ih has]

theorem map_fst_eq_of_isNamed {α : Type} {reads : Value → α → Prop} {es : List (Value × Value)}
    {xs : List (Text × α)} (h : List.Forall₂ (IsNamed reads) es xs) :
    es.map Prod.fst = (xs.map Prod.fst).map Value.text := by
  induction h with
  | nil => rfl
  | cons he _ ih => rw [List.map_cons, he.1, ih, List.map_cons, List.map_cons]

theorem nodup_names_of_isNamed {α : Type} {reads : Value → α → Prop} {es : List (Value × Value)}
    {xs : List (Text × α)} (h : List.Forall₂ (IsNamed reads) es xs)
    (hn : (es.map Prod.fst).Nodup) : (xs.map Prod.fst).Nodup := by
  rw [map_fst_eq_of_isNamed h] at hn
  exact hn.of_map

/-- The members of JSON are merged with no others. -/
theorem members_eq_ok_iff_of_isJson {α : Type} {f : Value → Decoded α} {es : List (Value × Value)}
    {xs : List (Text × α)} (h : (Value.map es).IsJson) :
    (Decoded.members Scalar.text f es).map Decoded.collectNamed = .ok xs ↔
      List.Forall₂ (IsNamed fun v a => f v = .ok a) es xs := by
  have hmembers (as : List (Text × α)) : Decoded.members Scalar.text f es = .ok as ↔
      List.Forall₂ (IsNamed fun v a => f v = .ok a) es as := by
    rw [Decoded.members_eq_ok_iff]
    refine forall₂_congr_of_mem fun e he a => and_congr_left' ?_
    obtain ⟨t, ht⟩ := h.keys_text e he
    rw [ht]
    exact ⟨fun heq => congrArg Value.text (Except.ok.inj heq),
      fun heq => congrArg Except.ok (Value.text.inj heq)⟩
  -- distinct names stay distinct, so nothing is collected under one of them
  have hcollect {as : List (Text × α)} (has : Decoded.members Scalar.text f es = .ok as) :
      Decoded.collectNamed as = as :=
    Decoded.collectNamed_of_nodup (nodup_names_of_isNamed ((hmembers as).mp has) h.nodup_keys)
  rw [Decoded.map_eq_ok_iff, ← hmembers]
  constructor
  · rintro ⟨as, has, rfl⟩
    rwa [hcollect has]
  · exact fun has => ⟨xs, has, hcollect has⟩

theorem Schema.decode_nullable_eq_ok_iff {s : Schema} {v : Value} {x : Option s.Denotes} :
    (nullable s).decode v = .ok x ↔ IsOptionally (fun v a => s.decode v = .ok a) (some v) x := by
  change (if v.isNull then .ok none else (s.decode v).map some : Decoded (Option s.Denotes)) =
    .ok x ↔ _
  cases hnull : v.isNull with
  | true =>
    obtain rfl := Value.eq_null_of_isNull hnull
    constructor
    · rintro ⟨⟩
      exact .null
    · rintro (_ | _ | ⟨hv, -⟩)
      · rfl
      · exact absurd rfl hv
  | false =>
    have hv : v ≠ .null := by
      rintro rfl
      cases hnull
    refine Decoded.map_eq_ok_iff.trans ⟨?_, ?_⟩
    · rintro ⟨a, ha, rfl⟩
      exact .value hv ha
    · rintro (_ | _ | ⟨-, ha⟩)
      · exact absurd rfl hv
      · exact ⟨_, ha, rfl⟩

theorem Fields.decode_field_eq_ok_iff {name : String} {required : Bool} {s : Schema} {rest : Fields}
    {es : List (Value × Value)} {a : s.Denotes} {b : rest.Denotes} :
    (field name required s rest).decode es = .ok (a, b) ↔
      IsHeld (fun v a => s.decode v = .ok a) required s.blank (Value.member? name es) a ∧
        rest.decode es = .ok b := by
  cases hm : Value.member? name es with
  | some v =>
    rw [decode_field_of_member hm]
    exact Decoded.both_eq_ok_iff.trans (and_congr_left' Decoded.under_eq_ok_iff)
  | none =>
    rw [decode_field_of_absent hm]
    refine Decoded.both_eq_ok_iff.trans (and_congr_left' ?_)
    cases required with
    | true => simp [IsHeld]
    | false => simp [IsHeld, eq_comm]

mutual

theorem Schema.decode_eq_ok_iff_reads : (s : Schema) → {v : Value} → v.IsJson →
    {x : s.Denotes} → (s.decode v = .ok x ↔ s.Reads v x)
  | .integer, _, _, _ | .boolean, _, _, _ | .dateTime, _, _, _ => Iff.rfl
  | .anything, _, _, _ => ⟨Except.ok.inj, congrArg Except.ok⟩
  | .text, v, hv, t => by
    cases hv with
    | text u =>
      exact ⟨fun h => congrArg Value.text (Except.ok.inj h),
        fun h => congrArg Except.ok (Value.text.inj h)⟩
    | null | bool | int | float | list | map => exact ⟨nofun, nofun⟩
  | .nullable s, v, hv, x => by
    refine Schema.decode_nullable_eq_ok_iff.trans (isOptionally_congr ?_)
    rintro _ ⟨⟩ a
    exact s.decode_eq_ok_iff_reads hv
  | .list s, v, hv, xs => by
    cases hv with
    | @list vs h =>
      have hitems : s.list.decode (.list vs) = .ok xs ↔ List.Forall₂ s.Reads vs xs :=
        Decoded.items_eq_ok_iff.trans
          (forall₂_congr_of_mem fun v hv _ => s.decode_eq_ok_iff_reads (h v hv))
      refine hitems.trans ⟨fun h => ⟨vs, rfl, h⟩, ?_⟩
      rintro ⟨_, ⟨⟩, h⟩
      exact h
    | null | bool | int | float | text | map => exact ⟨nofun, nofun⟩
  | .mapping s, v, hv, xs => by
    cases hv with
    | @map es hn hk h =>
      have hmembers : s.mapping.decode (.map es) = .ok xs ↔
          List.Forall₂ (IsNamed s.Reads) es xs :=
        (members_eq_ok_iff_of_isJson (.map hn hk h)).trans
          (forall₂_congr_of_mem fun e he _ =>
            and_congr_right' (s.decode_eq_ok_iff_reads (h e he)))
      refine hmembers.trans ⟨fun h => ⟨es, rfl, h⟩, ?_⟩
      rintro ⟨_, ⟨⟩, h⟩
      exact h
    | null | bool | int | float | text | list => exact ⟨nofun, nofun⟩
  | .screened screen s, v, _, x => by
    cases hscreen : screen v with
    | none =>
      rw [Schema.decode_screened_none hscreen]
      simp [Schema.Reads, hscreen, Decoded.fail]
    | some w =>
      rw [Schema.decode_screened hscreen]
      refine ⟨fun h => ⟨w, hscreen, h⟩, ?_⟩
      rintro ⟨w', hw, h⟩
      cases hscreen.symm.trans hw
      exact h
  | .record fields, v, hv, x => by
    cases hv with
    | @map es hn hk h =>
      refine (fields.decode_eq_ok_iff_reads (.map hn hk h)).trans ⟨fun h => ⟨es, rfl, h⟩, ?_⟩
      rintro ⟨_, ⟨⟩, h⟩
      exact h
    | null | bool | int | float | text | list => exact ⟨nofun, nofun⟩

theorem Fields.decode_eq_ok_iff_reads : (fields : Fields) → {es : List (Value × Value)} →
    (Value.map es).IsJson → {x : fields.Denotes} → (fields.decode es = .ok x ↔ fields.Reads es x)
  | .none, _, _, _ => ⟨fun _ => trivial, fun _ => rfl⟩
  | .field name required s rest, es, hes, (a, b) => by
    refine Fields.decode_field_eq_ok_iff.trans (and_congr ?_ (rest.decode_eq_ok_iff_reads hes))
    exact isHeld_congr fun v hv => s.decode_eq_ok_iff_reads (hes.of_member? hv)

end

end SubscriptionClient
