import SubscriptionClient.Proofs.Text.Codes
import SubscriptionClient.Proofs.Value.Describing

/-!
# Members by name

A mapping answers for a name whatever happens to the members of other names, be they replaced,
changed or left out.
-/

namespace SubscriptionClient

theorem toText_inj {s t : String} (h : s.toText = t.toText) : s = t := by
  have hchars := List.map_injective_iff.mpr (fun _ _ => CodePoint.ofChar_inj.mp) h
  exact String.toList_inj.mp hchars

namespace Value

variable {name other : String} {names : List String} {k v w : Value} {es : List (Value × Value)}

theorem sameKey_text_iff {t : Text} : k.sameKey (.text t) = true ↔ k = .text t := by
  cases k with
  | text u => simp [sameKey]
  | null | bool | int | float | bytes | decimal | dateTime | list | map => simp [sameKey, number?]

theorem sameKey_text_eq_false {t u : Text} (hk : k.sameKey (.text t) = true) (h : t ≠ u) :
    k.sameKey (.text u) = false := by
  rw [sameKey_text_iff] at hk
  rw [hk, ← Bool.not_eq_true, sameKey_text_iff]
  exact fun heq => h (text.inj heq)

theorem find?_cons_self (hk : k.sameKey w = true) : find? w ((k, v) :: es) = some v := if_pos hk

theorem find?_cons_of_ne (hk : k.sameKey w = false) : find? w ((k, v) :: es) = find? w es := by
  rw [find?, hk]
  rfl

/-! ## Replaced members -/

theorem member?_put_self (name : String) (v : Value) (es : List (Value × Value)) :
    member? name (put (.text name.toText) v es) = some v := by
  induction es with
  | nil => exact find?_cons_self (sameKey_text_iff.mpr rfl)
  | cons e es ih =>
    rw [put]
    cases hk : e.1.sameKey (.text name.toText) with
    | true => exact find?_cons_self hk
    | false => exact (find?_cons_of_ne hk).trans ih

theorem member?_put_of_ne (h : name ≠ other) (v : Value) (es : List (Value × Value)) :
    member? name (put (.text other.toText) v es) = member? name es := by
  have hne : other.toText ≠ name.toText := fun heq => h (toText_inj heq).symm
  induction es with
  | nil => exact find?_cons_of_ne (sameKey_text_eq_false (sameKey_text_iff.mpr rfl) hne)
  | cons e es ih =>
    rw [put]
    cases hk : e.1.sameKey (.text other.toText) with
    | true =>
      have hname := sameKey_text_eq_false hk hne
      exact (find?_cons_of_ne hname).trans (find?_cons_of_ne hname).symm
    | false =>
      cases hname : e.1.sameKey (.text name.toText) with
      | true => exact (find?_cons_self hname).trans (find?_cons_self hname).symm
      | false => exact (find?_cons_of_ne hname).trans (ih.trans (find?_cons_of_ne hname).symm)

theorem mem_of_mem_put {t : Text} {e : Value × Value} (h : e ∈ put (.text t) v es) :
    e = (.text t, v) ∨ e ∈ es := by
  induction es with
  | nil => exact .inl (List.mem_singleton.mp h)
  | cons d es ih =>
    rw [put] at h
    split at h
    next hk =>
      rcases List.mem_cons.mp h with rfl | hmem
      · exact .inl (by rw [sameKey_text_iff.mp hk])
      · exact .inr (List.mem_cons_of_mem d hmem)
    next =>
      rcases List.mem_cons.mp h with rfl | hmem
      · exact .inr List.mem_cons_self
      · exact (ih hmem).imp id (List.mem_cons_of_mem d)

theorem nodup_put {t : Text} (h : (es.map Prod.fst).Nodup) :
    ((put (.text t) v es).map Prod.fst).Nodup := by
  induction es with
  | nil => exact List.nodup_singleton _
  | cons d es ih =>
    rw [List.map_cons, List.nodup_cons] at h
    rw [put]
    split
    · exact List.nodup_cons.mpr h
    next hk =>
      refine List.nodup_cons.mpr ⟨fun hmem => ?_, ih h.2⟩
      obtain ⟨e, he, heq⟩ := List.mem_map.mp hmem
      rcases mem_of_mem_put he with rfl | hes
      · exact hk (sameKey_text_iff.mpr heq.symm)
      · exact h.1 (heq ▸ List.mem_map_of_mem hes)

theorem IsJson.put {t : Text} (h : IsJson (.map es)) (hv : v.IsJson) :
    IsJson (.map (Value.put (.text t) v es)) := by
  cases h with
  | map hn hk hes =>
    refine .map (nodup_put hn) ?_ ?_
    all_goals
      intro e he
      rcases mem_of_mem_put he with rfl | hmem
    · exact ⟨t, rfl⟩
    · exact hk e hmem
    · exact hv
    · exact hes e hmem

/-- Whether a mapping can be written does not depend on a member that can, before and after. -/
theorem isWritable_put {t : Text} {old : Value} (hold : find? (.text t) es = some old)
    (hw : old.isWritable = true) (hv : v.isWritable = true) :
    (Value.map (put (.text t) v es)).isWritable = (Value.map es).isWritable := by
  simp only [isWritable]
  induction es with
  | nil => cases hold
  | cons e es ih =>
    obtain ⟨k, w⟩ := e
    rw [put]
    cases hk : k.sameKey (.text t) with
    | true =>
      obtain rfl := Option.some.inj ((find?_cons_self hk).symm.trans hold)
      simp only [↓reduceIte, membersAreWritable, hw, hv]
    | false =>
      rw [find?_cons_of_ne hk] at hold
      simp only [Bool.false_eq_true, ↓reduceIte, membersAreWritable, ih hold]

/-! ## Changed members -/

section Change

variable {f : Value → Value → Value} {g : Value → Value}

/-- Changes the values of members, each under its key. -/
def mapValues (f : Value → Value → Value) (es : List (Value × Value)) : List (Value × Value) :=
  es.map fun e => (e.1, f e.1 e.2)

/-- Changes the values of the members of a mapping. -/
def mapMembers (f : Value → Value → Value) : Value → Value
  | map es => map (mapValues f es)
  | v => v

/-- A change of what stands under a name. -/
def changeAt (name : String) (g : Value → Value) (k v : Value) : Value :=
  if k.sameKey (.text name.toText) then g v else v

theorem find?_mapValues (h : ∀ k v, k.sameKey w = true → f k v = g v) :
    find? w (mapValues f es) = (find? w es).map g := by
  induction es with
  | nil => rfl
  | cons e es ih =>
    cases hk : e.1.sameKey w with
    | true =>
      refine (find?_cons_self hk).trans ?_
      rw [h _ _ hk, show find? w (e :: es) = some e.2 from find?_cons_self hk, Option.map_some]
    | false =>
      refine (find?_cons_of_ne hk).trans (ih.trans ?_)
      rw [show find? w (e :: es) = find? w es from find?_cons_of_ne hk]

theorem member?_changeAt_self (name : String) (g : Value → Value) (es : List (Value × Value)) :
    member? name (mapValues (changeAt name g) es) = (member? name es).map g :=
  find?_mapValues fun _ _ hk => if_pos hk

theorem member?_changeAt_of_ne (h : name ≠ other) (g : Value → Value)
    (es : List (Value × Value)) :
    member? name (mapValues (changeAt other g) es) = member? name es := by
  have hkeep : ∀ k v, k.sameKey (.text name.toText) = true → changeAt other g k v = id v := by
    intro k v hk
    have hother := sameKey_text_eq_false hk fun heq => h (toText_inj heq)
    rw [changeAt, hother]
    rfl
  exact (find?_mapValues hkeep).trans Option.map_id_apply

theorem map_fst_mapValues (f : Value → Value → Value) (es : List (Value × Value)) :
    (mapValues f es).map Prod.fst = es.map Prod.fst := by
  rw [mapValues, List.map_map]
  rfl

theorem IsJson.mapMembers (h : v.IsJson) (hf : ∀ k w, w.IsJson → (f k w).IsJson) :
    (v.mapMembers f).IsJson := by
  cases h with
  | map hn hk hv =>
    refine .map ?_ ?_ ?_
    · rwa [map_fst_mapValues]
    all_goals
      intro e he
      obtain ⟨d, hd, rfl⟩ := List.mem_map.mp he
    · exact hk d hd
    · exact hf _ _ (hv d hd)
  | null => exact .null
  | bool b => exact .bool b
  | int n => exact .int n
  | float x => exact .float x
  | text t => exact .text t
  | list h => exact .list h

theorem isJson_changeAt (hg : ∀ w, w.IsJson → (g w).IsJson) (k : Value) (h : w.IsJson) :
    (changeAt name g k w).IsJson := by
  rw [changeAt]
  split
  · exact hg w h
  · exact h

end Change

/-! ## Members left out -/

section Filter

variable {p : Value × Value → Bool}

theorem find?_filter_of_keeps (h : ∀ e : Value × Value, e.1.sameKey w = true → p e = true) :
    find? w (es.filter p) = find? w es := by
  induction es with
  | nil => rfl
  | cons e es ih =>
    cases hk : e.1.sameKey w with
    | true =>
      rw [List.filter_cons_of_pos (h e hk)]
      exact (find?_cons_self hk).trans (find?_cons_self hk).symm
    | false =>
      refine Eq.trans ?_ (find?_cons_of_ne hk).symm
      rw [List.filter_cons]
      split
      · exact (find?_cons_of_ne hk).trans ih
      · exact ih

theorem find?_filter_of_drops (h : ∀ e : Value × Value, e.1.sameKey w = true → p e = false) :
    find? w (es.filter p) = none := by
  induction es with
  | nil => rfl
  | cons e es ih =>
    cases hk : e.1.sameKey w with
    | true => rwa [List.filter_cons_of_neg (by simp [h e hk])]
    | false =>
      rw [List.filter_cons]
      split
      · exact (find?_cons_of_ne hk).trans ih
      · exact ih

end Filter

/-- Whether a member goes by one of these names. -/
def isNamed (names : List String) (e : Value × Value) : Bool :=
  names.any fun name => e.1.sameKey (.text name.toText)

/-- A body without the members of these names. -/
def without (names : List String) : Value → Value
  | map es => map (es.filter fun e => !isNamed names e)
  | v => v

theorem member?_without_of_mem (h : name ∈ names) (v : Value) :
    member? name (v.without names).members = none := by
  cases v with
  | map es =>
    refine find?_filter_of_drops fun e hk => ?_
    rw [Bool.not_eq_false', isNamed, List.any_eq_true]
    exact ⟨name, h, hk⟩
  | null | bool | int | float | text | bytes | decimal | dateTime | list => rfl

theorem member?_without_of_notMem (h : name ∉ names) (v : Value) :
    member? name (v.without names).members = member? name v.members := by
  cases v with
  | map es =>
    refine find?_filter_of_keeps fun e hk => ?_
    rw [Bool.not_eq_true', isNamed, List.any_eq_false]
    intro other hother
    have hne : name ≠ other := fun heq => h (heq ▸ hother)
    rw [Bool.not_eq_true]
    exact sameKey_text_eq_false hk fun heq => hne (toText_inj heq)
  | null | bool | int | float | text | bytes | decimal | dateTime | list => rfl

theorem IsJson.without (h : v.IsJson) (names : List String) : (v.without names).IsJson := by
  cases h with
  | map hn hk hv =>
    refine .map (hn.sublist (List.filter_sublist.map Prod.fst)) ?_ ?_
    · exact fun e he => hk e (List.mem_of_mem_filter he)
    · exact fun e he => hv e (List.mem_of_mem_filter he)
  | null => exact .null
  | bool b => exact .bool b
  | int n => exact .int n
  | float x => exact .float x
  | text t => exact .text t
  | list h => exact .list h

theorem isWritable_without (h : v.isWritable = true) (names : List String) :
    (v.without names).isWritable = true := by
  cases v with
  | map es =>
    exact isWritable_map_iff.mpr fun e he =>
      isWritable_map_iff.mp h e (List.mem_of_mem_filter he)
  | null | bool | int | float | text | bytes | decimal | dateTime | list => exact h

end Value

end SubscriptionClient
