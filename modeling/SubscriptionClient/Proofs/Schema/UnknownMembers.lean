import SubscriptionClient.Proofs.Body.Fields

/-!
# Unknown members

A record takes no notice of members that it does not declare, wherever in a body it stands. Two
bodies that differ in nothing else decode to the same value, or fail with the same issues.
-/

namespace SubscriptionClient

namespace Decoded

variable {α : Type} {name : Value → Decoded Text} {f : Value → Decoded α}

theorem items_congr {n : Nat} {vs ws : List Value}
    (h : List.Forall₂ (fun v w => f v = f w) vs ws) : items f n vs = items f n ws := by
  induction h generalizing n with
  | nil => rfl
  | cons hvw _ ih => rw [items, items, hvw, ih]

theorem members_congr {es fs : List (Value × Value)}
    (h : List.Forall₂ (fun e e' => e.1 = e'.1 ∧ f e.2 = f e'.2) es fs) :
    members name f es = members name f fs := by
  induction h with
  | nil => rfl
  | cons hee _ ih => rw [members, members, hee.1, hee.2, ih]

end Decoded

/-! ## Bodies that differ in unknown members -/

mutual

/-- Whether two values differ at most in members that no record declares in their place. In a
mapping every member counts. -/
def Schema.Alike : Schema → Value → Value → Prop
  | .nullable s, v, w => s.Alike v w
  | .list s, v, w => v = w ∨ ∃ vs ws, v = .list vs ∧ w = .list ws ∧ List.Forall₂ s.Alike vs ws
  | .mapping s, v, w => v = w ∨ ∃ es fs, v = .map es ∧ w = .map fs ∧
    List.Forall₂ (fun e e' => e.1 = e'.1 ∧ s.Alike e.2 e'.2) es fs
  | .screened _ s, v, w => s.Alike v w
  | .record fields, v, w => v = w ∨ ∃ es fs, v = .map es ∧ w = .map fs ∧ fields.Alike es fs
  | .text, v, w | .integer, v, w | .boolean, v, w | .dateTime, v, w | .anything, v, w => v = w

/-- Whether two mappings have alike members, or none, under each name that is declared. -/
def Fields.Alike : Fields → List (Value × Value) → List (Value × Value) → Prop
  | .none, _, _ => True
  | .field name _ s rest, es, fs =>
    Option.Rel s.Alike (Value.member? name es) (Value.member? name fs) ∧ rest.Alike es fs

end

theorem Schema.alike_refl : (s : Schema) → (v : Value) → s.Alike v v
  | .nullable s, v => s.alike_refl v
  | .screened _ s, v => s.alike_refl v
  | .list _, _ | .mapping _, _ | .record _, _ => .inl rfl
  | .text, _ | .integer, _ | .boolean, _ | .dateTime, _ | .anything, _ => rfl

theorem Schema.isNull_eq_of_alike : (s : Schema) → {v w : Value} → s.Alike v w →
    v.isNull = w.isNull
  | .nullable s, _, _, h | .screened _ s, _, _, h => s.isNull_eq_of_alike h
  | .text, _, _, h | .integer, _, _, h | .boolean, _, _, h | .dateTime, _, _, h
  | .anything, _, _, h => congrArg Value.isNull h
  | .list _, _, _, h => by
    rcases h with rfl | ⟨vs, ws, rfl, rfl, -⟩ <;> rfl
  | .mapping _, _, _, h | .record _, _, _, h => by
    rcases h with rfl | ⟨es, fs, rfl, rfl, -⟩ <;> rfl

mutual

/-- Whether screens let alike values through as alike ones. -/
def Schema.HasFairScreens : Schema → Prop
  | .nullable s | .list s | .mapping s => s.HasFairScreens
  | .screened screen s =>
    s.HasFairScreens ∧ ∀ v w, s.Alike v w → Option.Rel s.Alike (screen v) (screen w)
  | .record fields => fields.HasFairScreens
  | .text | .integer | .boolean | .dateTime | .anything => True

def Fields.HasFairScreens : Fields → Prop
  | .none => True
  | .field _ _ s rest => s.HasFairScreens ∧ rest.HasFairScreens

end

mutual

theorem Schema.decode_eq_of_alike : (s : Schema) → s.HasFairScreens → {v w : Value} →
    s.Alike v w → s.decode v = s.decode w
  | .text, _, _, _, h | .integer, _, _, _, h | .boolean, _, _, _, h | .dateTime, _, _, _, h
  | .anything, _, _, _, h => congrArg _ h
  | .nullable s, hs, v, w, h => by
    show (if v.isNull then .ok none else (s.decode v).map some : Decoded (Option s.Denotes)) =
      if w.isNull then .ok none else (s.decode w).map some
    rw [s.isNull_eq_of_alike h, s.decode_eq_of_alike hs h]
  | .list s, hs, v, w, h => by
    rcases h with rfl | ⟨vs, ws, rfl, rfl, h⟩
    · rfl
    · exact Decoded.items_congr (h.imp fun _ _ => s.decode_eq_of_alike hs)
  | .mapping s, hs, v, w, h => by
    rcases h with rfl | ⟨es, fs, rfl, rfl, h⟩
    · rfl
    · exact congrArg (Except.map _) (Decoded.members_congr
        (h.imp fun _ _ he => ⟨he.1, s.decode_eq_of_alike hs he.2⟩))
  | .screened screen s, hs, v, w, h => by
    have hscreen := hs.2 v w h
    generalize hv : screen v = v' at hscreen
    generalize hw : screen w = w' at hscreen
    cases hscreen with
    | none => exact (Schema.decode_screened_none hv).trans (Schema.decode_screened_none hw).symm
    | some hvw =>
      exact (Schema.decode_screened hv).trans ((s.decode_eq_of_alike hs.1 hvw).trans
        (Schema.decode_screened hw).symm)
  | .record fields, hs, v, w, h => by
    rcases h with rfl | ⟨es, fs, rfl, rfl, h⟩
    · rfl
    · exact fields.decode_eq_of_alike hs h

theorem Fields.decode_eq_of_alike : (fields : Fields) → fields.HasFairScreens →
    {es fs : List (Value × Value)} → fields.Alike es fs → fields.decode es = fields.decode fs
  | .none, _, _, _, _ => rfl
  | .field name required s rest, hs, es, fs, h => by
    obtain ⟨hhere, hrest⟩ := h
    have hrest := rest.decode_eq_of_alike hs.2 hrest
    generalize hv : Value.member? name es = v at hhere
    generalize hw : Value.member? name fs = w at hhere
    cases hhere with
    | none => rw [Fields.decode_field_of_absent hv, Fields.decode_field_of_absent hw, hrest]
    | some hvw =>
      rw [Fields.decode_field_of_member hv, Fields.decode_field_of_member hw, hrest,
        s.decode_eq_of_alike hs.1 hvw]

end

/-! ## The bodies of the backend -/

namespace Body

theorem hasFairScreens_ofFields {fields : List (String × Bool × Schema)}
    (hs : ∀ f ∈ fields, f.2.2.HasFairScreens) : (Schema.ofFields fields).HasFairScreens := by
  induction fields with
  | nil => trivial
  | cons f fields ih =>
    obtain ⟨hf, hfields⟩ := List.forall_mem_cons.mp hs
    exact ⟨hf, ih hfields⟩

theorem rel_alike_refl (s : Schema) (v : Option Value) : Option.Rel s.Alike v v := by
  cases v with
  | none => exact .none
  | some v => exact .some (s.alike_refl v)

/-- Where alike values are equal, every screen is fair. -/
theorem hasFairScreens_screened {s : Schema} (hs : s.HasFairScreens)
    (heq : ∀ {v w : Value}, s.Alike v w → v = w) (screen : Value → Option Value) :
    (Schema.screened screen s).HasFairScreens := by
  refine ⟨hs, fun v w h => ?_⟩
  rw [heq h]
  exact rel_alike_refl s (screen w)

theorem hasFairScreens_attributesErrorResponse : attributesErrorResponse.HasFairScreens :=
  hasFairScreens_ofFields (List.forall_mem_singleton.mpr trivial)

theorem hasFairScreens_errorEnvelope : errorEnvelope.HasFairScreens := by
  refine hasFairScreens_ofFields ?_
  have herrors : (Schema.screened listOrAbsent attributeErrorList).HasFairScreens := by
    refine ⟨trivial, fun v w h => ?_⟩
    rcases h with rfl | ⟨vs, ws, rfl, rfl, h⟩
    · exact rel_alike_refl _ _
    · exact .some (.inr ⟨vs, ws, rfl, rfl, h⟩)
  have hresponse :
      (Schema.screened mappingOrAbsent (.nullable attributesErrorResponse)).HasFairScreens := by
    refine ⟨hasFairScreens_attributesErrorResponse, fun v w h => ?_⟩
    rcases h with rfl | ⟨es, fs, rfl, rfl, h⟩
    · exact rel_alike_refl _ _
    · exact .some (.inr ⟨es, fs, rfl, rfl, h⟩)
  simp only [List.forall_mem_cons]
  exact ⟨hasFairScreens_screened (s := .nullable .integer) trivial id _,
    hasFairScreens_screened (s := optionalText) trivial id _, herrors, hresponse, nofun⟩

theorem hasFairScreens_signatureData : signatureData.HasFairScreens := by
  refine hasFairScreens_ofFields ?_
  simp only [List.forall_mem_cons]
  exact ⟨hasFairScreens_screened (s := optionalText) trivial id _,
    hasFairScreens_screened (s := optionalText) trivial id _,
    hasFairScreens_screened (s := .nullable .integer) trivial id _, nofun⟩

theorem hasFairScreens_of_mem_contracts :
    ∀ contract ∈ contracts, contract.2.HasFairScreens := by
  simp only [contracts, List.forall_mem_cons]
  refine ⟨hasFairScreens_attributesErrorResponse, hasFairScreens_errorEnvelope, ?_, ?_, ?_, ?_, ?_,
    ?_, ?_, ?_, hasFairScreens_signatureData, nofun⟩
  -- the other schemas have no screens
  all_goals repeat' constructor

theorem decode_eq_of_alike : ∀ contract ∈ contracts, ∀ {v w : Value}, contract.2.Alike v w →
    contract.2.decode v = contract.2.decode w :=
  fun contract hcontract _ _ h =>
    contract.2.decode_eq_of_alike (hasFairScreens_of_mem_contracts contract hcontract) h

end Body

end SubscriptionClient
