import Mathlib.Data.List.Forall2
import SubscriptionClient.Domain.SignedOffer

/-!
# Decoding part by part

Lists, mappings and records are decoded when every item, member or field of them is. A field for
which anything that does not fit counts as absent never stands in the way of the others.
-/

namespace SubscriptionClient

namespace Decoded

variable {α β : Type} {x : Decoded α} {y : Decoded β}

theorem both_eq_ok_iff {a : α} {b : β} : both x y = .ok (a, b) ↔ x = .ok a ∧ y = .ok b := by
  cases x <;> cases y <;> simp [both]

theorem map_eq_ok_iff {f : α → β} {b : β} : x.map f = .ok b ↔ ∃ a, x = .ok a ∧ f a = b := by
  cases x <;> simp [Except.map]

theorem map_some_eq_ok_iff {a : α} : x.map some = .ok (some a) ↔ x = .ok a := by
  cases x <;> simp [Except.map]

theorem map_some_ne_ok_none : x.map some ≠ .ok none := by
  cases x <;> simp [Except.map]

theorem under_eq_ok_iff {place : Place} {a : α} : x.under place = .ok a ↔ x = .ok a := by
  cases x <;> simp [under]

/-! ## Items and members -/

theorem exists_of_mem_right {R : α → β → Prop} {as : List α} {bs : List β} {b : β}
    (h : List.Forall₂ R as bs) (hb : b ∈ bs) : ∃ a ∈ as, R a b := by
  induction h with
  | nil => cases hb
  | @cons a c as bs hac hrest ih =>
    rcases List.mem_cons.mp hb with rfl | hb
    · exact ⟨a, List.mem_cons_self, hac⟩
    · obtain ⟨d, hd, hdb⟩ := ih hb
      exact ⟨d, List.mem_cons_of_mem a hd, hdb⟩

/-- A list is decoded item by item. -/
theorem items_eq_ok_iff {f : Value → Decoded α} {n : Nat} {vs : List Value} {as : List α} :
    items f n vs = .ok as ↔ List.Forall₂ (fun v a => f v = .ok a) vs as := by
  induction vs generalizing n as with
  | nil => simp [items, eq_comm]
  | cons v vs ih =>
    rw [items, map_eq_ok_iff, List.forall₂_cons_left_iff]
    constructor
    · rintro ⟨⟨b, bs⟩, hboth, rfl⟩
      obtain ⟨hv, hvs⟩ := both_eq_ok_iff.mp hboth
      exact ⟨b, bs, under_eq_ok_iff.mp hv, ih.mp hvs, rfl⟩
    · rintro ⟨b, bs, hv, hvs, rfl⟩
      exact ⟨(b, bs), both_eq_ok_iff.mpr ⟨under_eq_ok_iff.mpr hv, ih.mpr hvs⟩, rfl⟩

theorem items_map {f : Value → Decoded α} {g : α → Value} {as : List α}
    (h : ∀ a ∈ as, f (g a) = .ok a) (n : Nat) :
    items f n (as.map g) = .ok as := by
  rw [items_eq_ok_iff, List.forall₂_map_left_iff]
  exact List.forall₂_same.mpr h

theorem exists_of_items_eq_ok {f : Value → Decoded α} {vs : List Value} {n : Nat} {as : List α}
    (h : items f n vs = .ok as) : ∀ v ∈ vs, ∃ a, f v = .ok a := by
  intro v hv
  obtain ⟨a, -, ha⟩ := exists_of_mem_right (items_eq_ok_iff.mp h).flip hv
  exact ⟨a, ha⟩

theorem putNamed_of_not_mem {name : Text} {a : α} {es : List (Text × α)}
    (h : name ∉ es.map Prod.fst) : putNamed name a es = es ++ [(name, a)] := by
  induction es with
  | nil => rfl
  | cons e es ih =>
    rw [List.map_cons, List.mem_cons, not_or] at h
    rw [putNamed, if_neg (Ne.symm h.1), ih h.2]
    rfl

theorem foldl_putNamed {acc es : List (Text × α)} (h : ((acc ++ es).map Prod.fst).Nodup) :
    es.foldl (fun acc e => putNamed e.1 e.2 acc) acc = acc ++ es := by
  induction es generalizing acc with
  | nil => rw [List.foldl_nil, List.append_nil]
  | cons e es ih =>
    have hfresh : e.1 ∉ acc.map Prod.fst := by
      intro hmem
      rw [List.map_append, List.nodup_append] at h
      exact h.2.2 _ hmem _ List.mem_cons_self rfl
    rw [List.foldl_cons, putNamed_of_not_mem hfresh, ih (by simpa using h)]
    simp

theorem collectNamed_of_nodup {es : List (Text × α)} (h : (es.map Prod.fst).Nodup) :
    collectNamed es = es :=
  foldl_putNamed h

theorem key_eq_ok_iff {name : Value → Decoded Text} {k : Value} {t : Text} :
    key name k = .ok t ↔ name k = .ok t :=
  under_eq_ok_iff.trans under_eq_ok_iff

/-- A mapping is decoded member by member, each under its own name. -/
theorem members_eq_ok_iff {name : Value → Decoded Text} {f : Value → Decoded α}
    {es : List (Value × Value)} {as : List (Text × α)} :
    members name f es = .ok as ↔
      List.Forall₂ (fun e a => name e.1 = .ok a.1 ∧ f e.2 = .ok a.2) es as := by
  induction es generalizing as with
  | nil => simp [members, eq_comm]
  | cons e es ih =>
    rw [members, map_eq_ok_iff, List.forall₂_cons_left_iff]
    constructor
    · rintro ⟨⟨b, bs⟩, hboth, rfl⟩
      obtain ⟨he, hes⟩ := both_eq_ok_iff.mp hboth
      obtain ⟨hk, hv⟩ := both_eq_ok_iff.mp he
      exact ⟨b, bs, ⟨key_eq_ok_iff.mp hk, under_eq_ok_iff.mp hv⟩, ih.mp hes, rfl⟩
    · rintro ⟨b, bs, ⟨hk, hv⟩, hes, rfl⟩
      have he : both (key name e.1) ((f e.2).under (placeOfKey e.1)) = .ok b :=
        both_eq_ok_iff.mpr ⟨key_eq_ok_iff.mpr hk, under_eq_ok_iff.mpr hv⟩
      exact ⟨(b, bs), both_eq_ok_iff.mpr ⟨he, ih.mpr hes⟩, rfl⟩

theorem members_map {f : Value → Decoded α} {g : α → Value} {es : List (Text × α)}
    (h : ∀ e ∈ es, f (g e.2) = .ok e.2) :
    members Scalar.text f (es.map fun e => (.text e.1, g e.2)) = .ok es := by
  rw [members_eq_ok_iff, List.forall₂_map_left_iff]
  exact List.forall₂_same.mpr fun e he => ⟨rfl, h e he⟩

end Decoded

/-! ## Fields -/

namespace Schema

/-- What a record reads in a field that it need not have. -/
def readField (name : String) (s : Schema) (es : List (Value × Value)) : Decoded s.Denotes :=
  match Value.member? name es with
  | some v => (s.decode v).under (.name name.toText)
  | none => .ok s.blank

variable {name : String} {s : Schema} {rest : List (String × Bool × Schema)}
  {es : List (Value × Value)}

theorem decode_ofFields_cons : (ofFields ((name, false, s) :: rest)).decode (.map es) =
    Decoded.both (s.readField name es) ((ofFields rest).decode (.map es)) := by
  show Decoded.both _ _ = _
  rw [readField]
  cases Value.member? name es <;> rfl

theorem decode_ofFields_cons_eq_ok_iff {a : s.Denotes} {b : (ofFields rest).Denotes} :
    (ofFields ((name, false, s) :: rest)).decode (.map es) = .ok (a, b) ↔
      s.readField name es = .ok a ∧ (ofFields rest).decode (.map es) = .ok b := by
  rw [decode_ofFields_cons]
  exact Decoded.both_eq_ok_iff

/-- A record looks at the members of its fields only, and there at what its schemas decode. -/
theorem decode_ofFields_congr {fields : List (String × Bool × Schema)}
    {es es' : List (Value × Value)}
    (h : ∀ f ∈ fields, (Value.member? f.1 es).map f.2.2.decode =
      (Value.member? f.1 es').map f.2.2.decode) :
    (ofFields fields).decode (.map es) = (ofFields fields).decode (.map es') := by
  induction fields with
  | nil => rfl
  | cons f fields ih =>
    have hhere := h f List.mem_cons_self
    have hrest := ih fun g hg => h g (List.mem_cons_of_mem f hg)
    show Decoded.both _ _ = Decoded.both _ _
    cases hv : Value.member? f.1 es with
    | none =>
      rw [hv] at hhere
      rw [Option.map_eq_none_iff.mp hhere.symm]
      exact congrArg _ hrest
    | some v =>
      rw [hv] at hhere
      obtain ⟨w, hw, hdecode⟩ := Option.map_eq_some_iff.mp hhere.symm
      rw [hw]
      show Decoded.both ((f.2.2.decode v).under _) _ = Decoded.both ((f.2.2.decode w).under _) _
      rw [hdecode]
      exact congrArg _ hrest

/-- A field is read as its schema decodes the member, and as blank without one. -/
theorem readField_eq_ok_iff {P : Option Value → Prop} {a : s.Denotes}
    (hblank : s.blank = a ↔ P none)
    (hmember : ∀ v, Value.member? name es = some v → (s.decode v = .ok a ↔ P (some v))) :
    s.readField name es = .ok a ↔ P (Value.member? name es) := by
  rw [readField]
  cases hv : Value.member? name es with
  | none => simpa using hblank
  | some v => exact Decoded.under_eq_ok_iff.trans (hmember v hv)

theorem decode_of_decode_nullable {v : Value} {a : s.Denotes}
    (h : (nullable s).decode v = .ok (some a)) : s.decode v = .ok a := by
  change (if v.isNull then .ok none else (s.decode v).map some : Decoded (Option s.Denotes)) = _
    at h
  split at h
  · cases h
  · exact Decoded.map_some_eq_ok_iff.mp h

theorem decode_screened {screen : Value → Option Value} {s : Schema} {v w : Value}
    (h : screen v = some w) : (screened screen s).decode v = s.decode w := by
  show (match screen v with
    | some w => s.decode w
    | none => .fail .refused) = s.decode w
  rw [h]

theorem decode_screened_none {screen : Value → Option Value} {s : Schema} {v : Value}
    (h : screen v = none) : (screened screen s).decode v = .fail .refused := by
  show (match screen v with
    | some w => s.decode w
    | none => .fail .refused) = .fail .refused
  rw [h]

end Schema

namespace Fields

variable {name : String} {required : Bool} {s : Schema} {rest : Fields} {v : Value}
  {es : List (Value × Value)}

/-- A record reads a member in the place of its field, and what is wrong with it under its name. -/
theorem decode_field_of_member (h : Value.member? name es = some v) :
    (field name required s rest).decode es =
      Decoded.both ((s.decode v).under (.name name.toText)) (rest.decode es) := by
  show Decoded.both
    (match Value.member? name es with
      | some w => (s.decode w).under (.name name.toText)
      | Option.none => if required then .error [⟨.missing, [.name name.toText]⟩] else .ok s.blank)
    _ = _
  rw [h]

theorem decode_field_of_absent (h : Value.member? name es = Option.none) :
    (field name required s rest).decode es =
      Decoded.both (if required then .error [⟨.missing, [.name name.toText]⟩] else .ok s.blank)
        (rest.decode es) := by
  show Decoded.both
    (match Value.member? name es with
      | some w => (s.decode w).under (.name name.toText)
      | Option.none => if required then .error [⟨.missing, [.name name.toText]⟩] else .ok s.blank)
    _ = _
  rw [h]

end Fields

/-! ## Signatures -/

namespace SignedOffer

/-- The integer of a value that is an integer. -/
def integerOf? : Option Value → Option Int
  | some (.int n) => some n
  | _ => none

variable {v : Option Value}

theorem textOf?_eq_some_iff {t : Text} : textOf? v = some t ↔ v = some (.text t) := by
  cases v with
  | none => simp [textOf?]
  | some v => cases v <;> simp [textOf?]

theorem integerOf?_eq_some_iff {n : Int} : integerOf? v = some n ↔ v = some (.int n) := by
  cases v with
  | none => simp [integerOf?]
  | some v => cases v <;> simp [integerOf?]

theorem readField_textOrAbsent (name : String) (es : List (Value × Value)) :
    (Schema.screened Body.textOrAbsent Body.optionalText).readField name es =
      .ok (textOf? (Value.member? name es)) := by
  rw [Schema.readField]
  cases Value.member? name es with
  | none => rfl
  | some v => cases v <;> rfl

theorem readField_integerOrAbsent (name : String) (es : List (Value × Value)) :
    (Schema.screened Body.integerOrAbsent (.nullable .integer)).readField name es =
      .ok (integerOf? (Value.member? name es)) := by
  rw [Schema.readField]
  cases Value.member? name es with
  | none => rfl
  | some v => cases v <;> rfl

/-- A signature is decoded from any mapping, and each part from its own member. -/
theorem decode_map (keyId : Option Value) (es : List (Value × Value)) : decode keyId (.map es) =
    .ok { signature := textOf? (Value.member? "signature" es)
          keyId := textOf? keyId
          nonce := (textOf? (Value.member? "nonce" es)).bind Uuid.read?
          timestamp := integerOf? (Value.member? "timestamp" es) } := by
  have hrecord : Body.signatureData.decode (.map es) =
      .ok (textOf? (Value.member? "signature" es), textOf? (Value.member? "nonce" es),
        integerOf? (Value.member? "timestamp" es), ()) := by
    refine Schema.decode_ofFields_cons_eq_ok_iff.mpr ⟨readField_textOrAbsent _ es, ?_⟩
    refine Schema.decode_ofFields_cons_eq_ok_iff.mpr ⟨readField_textOrAbsent _ es, ?_⟩
    exact Schema.decode_ofFields_cons_eq_ok_iff.mpr ⟨readField_integerOrAbsent _ es, rfl⟩
  rw [decode, hrecord]
  rfl

end SignedOffer

end SubscriptionClient
