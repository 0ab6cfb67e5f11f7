import SubscriptionClient.Proofs.Value.SameJson

/-!
# Plain arguments

The kinds of plain values that calls are declared for. Identifiers and flags that are the same JSON
are equal.
-/

namespace SubscriptionClient.Value

variable {v w : Value}

def IsIdentifier (v : Value) : Prop := ∃ t : Text, v = .text t ∧ t.IsClean

def IsOptional (v : Value) : Prop := v = .null ∨ v.IsIdentifier

def IsFlag (v : Value) : Prop := ∃ b : Bool, v = .bool b

theorem IsIdentifier.isPlain (h : v.IsIdentifier) : v.IsPlain := by
  obtain ⟨t, rfl, ht⟩ := h
  exact .text ht

theorem IsOptional.isPlain (h : v.IsOptional) : v.IsPlain := by
  rcases h with rfl | h
  · exact .null
  · exact h.isPlain

theorem IsFlag.isPlain (h : v.IsFlag) : v.IsPlain := by
  obtain ⟨b, rfl⟩ := h
  exact .bool b

theorem IsIdentifier.eq_of_sameJson (hv : v.IsIdentifier) (h : SameJson v w) : v = w := by
  obtain ⟨t, rfl, -⟩ := hv
  cases h
  rfl

theorem IsOptional.eq_of_sameJson (hv : v.IsOptional) (h : SameJson v w) : v = w := by
  rcases hv with rfl | hv
  · cases h
    rfl
  · exact hv.eq_of_sameJson h

theorem eq_of_sameJson_list {xs ys : List Value} (hx : ∀ x ∈ xs, x.IsIdentifier)
    (h : SameJson (.list xs) (.list ys)) : xs = ys := by
  induction xs generalizing ys with
  | nil =>
    cases h with
    | list hl => exact (List.length_eq_zero_iff.mp hl.symm).symm
  | cons x xs ih =>
    cases ys with
    | nil =>
      cases h with
      | list hl => cases hl
    | cons y ys =>
      obtain ⟨hxy, hrest⟩ := sameJson_cons_iff.mp h
      have hhead := (hx x List.mem_cons_self).eq_of_sameJson hxy
      have htail := ih (fun z hz => hx z (List.mem_cons_of_mem x hz)) hrest
      rw [hhead, htail]

theorem isPlain_record {fields : List (String × Value)} (names : List String)
    (hn : (names.map String.toText).Nodup) (hf : fields.map Prod.fst = names)
    (hv : ∀ f ∈ fields, f.2.IsPlain) : (record fields).IsPlain := by
  subst hf
  refine .map ?_ ?_ ?_
  · have htexts := List.Nodup.map (f := Value.text) (fun _ _ => Value.text.inj) hn
    rw [List.map_map, List.map_map] at htexts
    rw [List.map_map]
    exact htexts
  · intro e he
    obtain ⟨f, -, rfl⟩ := List.mem_map.mp he
    exact ⟨_, rfl, Text.isClean_toText f.1⟩
  · intro e he
    obtain ⟨f, hf, rfl⟩ := List.mem_map.mp he
    exact hv f hf

end SubscriptionClient.Value
