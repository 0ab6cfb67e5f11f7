import SubscriptionClient.Proofs.Body.Fields
import SubscriptionClient.Proofs.Value.Members

/-!
# Dumps

A dump spells out what was decoded: scalars in their own form, absent fields as blanks, one member
for each name. Decoding takes it back to what it was made from, so that decoding a second time
changes nothing.
-/

namespace SubscriptionClient

namespace Decoded

variable {α : Type} {name : Text} {a : α} {e : Text × α} {es acc : List (Text × α)}

/-! ## One entry for each name -/

theorem map_fst_putNamed_of_mem (h : name ∈ es.map Prod.fst) :
    (putNamed name a es).map Prod.fst = es.map Prod.fst := by
  induction es with
  | nil => cases h
  | cons e es ih =>
    rw [putNamed]
    by_cases hname : e.1 = name
    · rw [if_pos hname]
      rfl
    · rw [if_neg hname]
      rw [List.map_cons, List.mem_cons] at h
      have htail := ih (h.resolve_left (Ne.symm hname))
      rw [List.map_cons, htail, List.map_cons]

theorem nodup_putNamed (h : (es.map Prod.fst).Nodup) :
    ((putNamed name a es).map Prod.fst).Nodup := by
  by_cases hmem : name ∈ es.map Prod.fst
  · rwa [map_fst_putNamed_of_mem hmem]
  · rw [putNamed_of_not_mem hmem, List.map_append]
    refine List.nodup_append.mpr ⟨h, List.nodup_singleton _, ?_⟩
    rintro _ hother _ hname rfl
    rw [List.mem_singleton.mp hname] at hother
    exact hmem hother

theorem mem_of_mem_putNamed (h : e ∈ putNamed name a es) : e = (name, a) ∨ e ∈ es := by
  induction es with
  | nil => exact .inl (List.mem_singleton.mp h)
  | cons d es ih =>
    rw [putNamed] at h
    split at h
    next hname =>
      rcases List.mem_cons.mp h with rfl | hmem
      · exact .inl (by rw [hname])
      · exact .inr (List.mem_cons_of_mem d hmem)
    next =>
      rcases List.mem_cons.mp h with rfl | hmem
      · exact .inr List.mem_cons_self
      · exact (ih hmem).imp id (List.mem_cons_of_mem d)

theorem nodup_foldl_putNamed (h : (acc.map Prod.fst).Nodup) :
    ((es.foldl (fun acc e => putNamed e.1 e.2 acc) acc).map Prod.fst).Nodup := by
  induction es generalizing acc with
  | nil => exact h
  | cons e es ih => exact ih (nodup_putNamed h)

theorem mem_of_mem_foldl_putNamed
    (h : e ∈ es.foldl (fun acc e => putNamed e.1 e.2 acc) acc) : e ∈ acc ∨ e ∈ es := by
  induction es generalizing acc with
  | nil => exact .inl h
  | cons d es ih =>
    rcases ih h with hput | hmem
    · rcases mem_of_mem_putNamed hput with rfl | hacc
      · exact .inr List.mem_cons_self
      · exact .inl hacc
    · exact .inr (List.mem_cons_of_mem d hmem)

theorem nodup_collectNamed (es : List (Text × α)) :
    ((collectNamed es).map Prod.fst).Nodup :=
  nodup_foldl_putNamed List.nodup_nil

theorem mem_of_mem_collectNamed (h : e ∈ collectNamed es) : e ∈ es :=
  (mem_of_mem_foldl_putNamed h).resolve_left List.not_mem_nil

end Decoded

/-! ## Settled schemas -/

def Fields.names : Fields → List String
  | .none => []
  | .field name _ _ rest => name :: rest.names

mutual

/-- Whether dumps of a schema are told apart from null where null is an alternative, pass the
screens they come to, and have one member for each field. -/
def Schema.IsSettled : Schema → Prop
  | .nullable s => s.IsSettled ∧ ∀ x, (s.dump x).isNull = false
  | .list s => s.IsSettled
  | .mapping s => s.IsSettled
  | .screened screen s => s.IsSettled ∧ ∀ x, screen (s.dump x) = some (s.dump x)
  | .record fields => fields.IsSettled
  | .text | .integer | .boolean | .dateTime | .anything => True

def Fields.IsSettled : Fields → Prop
  | .none => True
  | .field name _ s rest => s.IsSettled ∧ name ∉ rest.names ∧ rest.IsSettled

end

/-! ### Schemas without screens -/

def Schema.isNullable : Schema → Bool
  | .nullable _ | .screened _ _ | .anything => true
  | .list _ | .mapping _ | .record _ | .text | .integer | .boolean | .dateTime => false

mutual

/-- Whether a schema has no screens, no null as an alternative to null, and no field twice. -/
def Schema.isPlain : Schema → Bool
  | .nullable s => s.isPlain && !s.isNullable
  | .list s => s.isPlain
  | .mapping s => s.isPlain
  | .screened _ _ => false
  | .record fields => fields.isPlain
  | .text | .integer | .boolean | .dateTime | .anything => true

def Fields.isPlain : Fields → Bool
  | .none => true
  | .field name _ s rest => s.isPlain && !rest.names.contains name && rest.isPlain

end

theorem Schema.isNull_dump : (s : Schema) → s.isNullable = false → (x : s.Denotes) →
    (s.dump x).isNull = false
  | .list _, _, _ | .mapping _, _, _ | .record _, _, _ | .text, _, _ | .integer, _, _
  | .boolean, _, _ | .dateTime, _, _ => rfl

mutual

theorem Schema.isSettled_of_isPlain : (s : Schema) → s.isPlain = true → s.IsSettled
  | .nullable s, h => by
    obtain ⟨hs, hnull⟩ := Bool.and_eq_true_iff.mp h
    exact ⟨s.isSettled_of_isPlain hs, s.isNull_dump (by simpa using hnull)⟩
  | .list s, h => s.isSettled_of_isPlain h
  | .mapping s, h => s.isSettled_of_isPlain h
  | .record fields, h => fields.isSettled_of_isPlain h
  | .text, _ | .integer, _ | .boolean, _ | .dateTime, _ | .anything, _ => trivial

theorem Fields.isSettled_of_isPlain : (fields : Fields) → fields.isPlain = true →
    fields.IsSettled
  | .none, _ => trivial
  | .field name required s rest, h => by
    obtain ⟨hhere, hrest⟩ := Bool.and_eq_true_iff.mp h
    obtain ⟨hs, hname⟩ := Bool.and_eq_true_iff.mp hhere
    exact ⟨s.isSettled_of_isPlain hs, by simpa using hname, rest.isSettled_of_isPlain hrest⟩

end

mutual

/-- Whether every mapping in a value has one entry for each name. -/
def Schema.HasDistinctNames : (s : Schema) → s.Denotes → Prop
  | .nullable s, (x : Option s.Denotes) => ∀ a ∈ x, s.HasDistinctNames a
  | .list s, (xs : List s.Denotes) => ∀ a ∈ xs, s.HasDistinctNames a
  | .mapping s, (xs : List (Text × s.Denotes)) =>
    (xs.map Prod.fst).Nodup ∧ ∀ e ∈ xs, s.HasDistinctNames e.2
  | .screened _ s, x => s.HasDistinctNames x
  | .record fields, x => fields.HasDistinctNames x
  | .text, _ | .integer, _ | .boolean, _ | .dateTime, _ | .anything, _ => True

def Fields.HasDistinctNames : (fields : Fields) → fields.Denotes → Prop
  | .none, _ => True
  | .field _ _ s rest, x => s.HasDistinctNames x.1 ∧ rest.HasDistinctNames x.2

end

mutual

theorem Schema.hasDistinctNames_blank : (s : Schema) → s.HasDistinctNames s.blank
  | .text | .integer | .boolean | .dateTime | .anything => trivial
  | .nullable _ => nofun
  | .list _ => nofun
  | .mapping _ => ⟨List.nodup_nil, nofun⟩
  | .screened _ s => s.hasDistinctNames_blank
  | .record fields => fields.hasDistinctNames_blank

theorem Fields.hasDistinctNames_blank : (fields : Fields) → fields.HasDistinctNames fields.blank
  | .none => trivial
  | .field _ _ s rest => ⟨s.hasDistinctNames_blank, rest.hasDistinctNames_blank⟩

end

mutual

/-- Decoding merges the members that come to one name. -/
theorem Schema.hasDistinctNames_of_decode : (s : Schema) → {v : Value} → {x : s.Denotes} →
    s.decode v = .ok x → s.HasDistinctNames x
  | .text, _, _, _ | .integer, _, _, _ | .boolean, _, _, _ | .dateTime, _, _, _
  | .anything, _, _, _ => trivial
  | .nullable s, v, x, h => by
    rintro a rfl
    exact s.hasDistinctNames_of_decode (Schema.decode_of_decode_nullable h)
  | .list s, v, xs, h => by
    cases v with
    | list vs =>
      intro a ha
      obtain ⟨v, -, hv⟩ := Decoded.exists_of_mem_right (Decoded.items_eq_ok_iff.mp h) ha
      exact s.hasDistinctNames_of_decode hv
    | null | bool | int | float | text | bytes | decimal | dateTime | map => cases h
  | .mapping s, v, xs, h => by
    cases v with
    | map es =>
      obtain ⟨as, has, rfl⟩ := Decoded.map_eq_ok_iff.mp h
      refine ⟨Decoded.nodup_collectNamed as, fun e he => ?_⟩
      have hmem := Decoded.mem_of_mem_collectNamed he
      obtain ⟨m, -, -, hm⟩ :=
        Decoded.exists_of_mem_right (Decoded.members_eq_ok_iff.mp has) hmem
      exact s.hasDistinctNames_of_decode hm
    | null | bool | int | float | text | bytes | decimal | dateTime | list => cases h
  | .screened screen s, v, x, h => by
    cases hscreen : screen v with
    | none =>
      rw [Schema.decode_screened_none hscreen] at h
      cases h
    | some w => exact s.hasDistinctNames_of_decode ((Schema.decode_screened hscreen).symm.trans h)
  | .record fields, v, x, h => by
    cases v with
    | map es => exact fields.hasDistinctNames_of_decode h
    | null | bool | int | float | text | bytes | decimal | dateTime | list => cases h

theorem Fields.hasDistinctNames_of_decode : (fields : Fields) → {es : List (Value × Value)} →
    {x : fields.Denotes} → fields.decode es = .ok x → fields.HasDistinctNames x
  | .none, _, _, _ => trivial
  | .field name required s rest, es, (a, b), h => by
    obtain ⟨ha, hb⟩ := Decoded.both_eq_ok_iff.mp h
    refine ⟨?_, rest.hasDistinctNames_of_decode hb⟩
    split at ha
    · exact s.hasDistinctNames_of_decode (Decoded.under_eq_ok_iff.mp ha)
    · split at ha
      · cases ha
      · cases ha
        exact s.hasDistinctNames_blank

end

/-! ## Decoding a dump -/

theorem Fields.decode_cons_of_notMem : (fields : Fields) → {name : String} → {v : Value} →
    {es : List (Value × Value)} → name ∉ fields.names →
    fields.decode ((.text name.toText, v) :: es) = fields.decode es
  | .none, _, _, _, _ => rfl
  | .field other required s rest, name, v, es, h => by
    obtain ⟨hother, hrest⟩ := not_or.mp (mt List.mem_cons.mpr h)
    have hmember : Value.member? other ((.text name.toText, v) :: es) = Value.member? other es :=
      Value.find?_cons_of_ne (Value.sameKey_text_eq_false (Value.sameKey_text_iff.mpr rfl)
        fun heq => hother (toText_inj heq))
    cases hes : Value.member? other es with
    | none =>
      rw [decode_field_of_absent hes, decode_field_of_absent (hmember.trans hes),
        rest.decode_cons_of_notMem hrest]
    | some w =>
      rw [decode_field_of_member hes, decode_field_of_member (hmember.trans hes),
        rest.decode_cons_of_notMem hrest]

mutual

theorem Schema.decode_dump : (s : Schema) → s.IsSettled → {x : s.Denotes} →
    s.HasDistinctNames x → s.decode (s.dump x) = .ok x
  | .text, _, _, _ | .integer, _, _, _ | .boolean, _, _, _ | .dateTime, _, _, _
  | .anything, _, _, _ => rfl
  | .nullable s, hs, x, hx => by
    cases x with
    | none => rfl
    | some a =>
      show (if (s.dump a).isNull then _ else (s.decode (s.dump a)).map some) = .ok (some a)
      rw [hs.2 a, s.decode_dump hs.1 (hx a rfl)]
      rfl
  | .list s, hs, xs, hx => Decoded.items_map (fun a ha => s.decode_dump hs (hx a ha)) 0
  | .mapping s, hs, xs, hx => by
    have hmembers : Decoded.members Scalar.text s.decode
        (xs.map fun e => (.text e.1, s.dump e.2)) = .ok xs :=
      Decoded.members_map fun e he => s.decode_dump hs (hx.2 e he)
    show (Decoded.members Scalar.text s.decode _).map Decoded.collectNamed = .ok xs
    rw [hmembers]
    exact congrArg Except.ok (Decoded.collectNamed_of_nodup hx.1)
  | .screened screen s, hs, x, hx =>
    (Schema.decode_screened (hs.2 x)).trans (s.decode_dump hs.1 hx)
  | .record fields, hs, x, hx => fields.decode_dump hs hx

theorem Fields.decode_dump : (fields : Fields) → fields.IsSettled → {x : fields.Denotes} →
    fields.HasDistinctNames x → fields.decode (fields.dump x) = .ok x
  | .none, _, _, _ => rfl
  | .field name required s rest, ⟨hs, hname, hrest⟩, (a, b), ⟨ha, hb⟩ => by
    have hmember : Value.member? name ((.text name.toText, s.dump a) :: rest.dump b) =
        some (s.dump a) := Value.find?_cons_self (Value.sameKey_text_iff.mpr rfl)
    have hrest : rest.decode ((.text name.toText, s.dump a) :: rest.dump b) = .ok b :=
      (rest.decode_cons_of_notMem hname).trans (rest.decode_dump hrest hb)
    refine (Fields.decode_field_of_member hmember).trans (Decoded.both_eq_ok_iff.mpr ⟨?_, hrest⟩)
    exact Decoded.under_eq_ok_iff.mpr (s.decode_dump hs ha)

end

theorem Schema.decode_dump_of_decode {s : Schema} (hs : s.IsSettled) {v : Value} {x : s.Denotes}
    (h : s.decode v = .ok x) : s.decode (s.dump x) = .ok x :=
  s.decode_dump hs (s.hasDistinctNames_of_decode h)

/-! ## The bodies of the backend -/

namespace Body

theorem names_foldr (fields : List (String × Bool × Schema)) :
    (fields.foldr (fun f rest => Fields.field f.1 f.2.1 f.2.2 rest) .none).names =
      fields.map Prod.fst := by
  induction fields with
  | nil => rfl
  | cons f fields ih => exact congrArg _ ih

theorem isSettled_ofFields {fields : List (String × Bool × Schema)}
    (hn : (fields.map Prod.fst).Nodup) (hs : ∀ f ∈ fields, f.2.2.IsSettled) :
    (Schema.ofFields fields).IsSettled := by
  induction fields with
  | nil => trivial
  | cons f fields ih =>
    rw [List.map_cons, List.nodup_cons] at hn
    obtain ⟨hf, hfields⟩ := List.forall_mem_cons.mp hs
    exact ⟨hf, by rw [names_foldr]; exact hn.1, ih hn.2 hfields⟩

/-- A screen before an optional member has to let null and dumps through. -/
theorem isSettled_screened {screen : Value → Option Value} {s : Schema}
    (hs : (Schema.nullable s).isPlain = true) (hnull : screen .null = some .null)
    (hdump : ∀ x, screen (s.dump x) = some (s.dump x)) :
    (Schema.screened screen (.nullable s)).IsSettled := by
  refine ⟨Schema.isSettled_of_isPlain _ hs, fun x => ?_⟩
  cases x with
  | none => exact hnull
  | some a => exact hdump a

theorem isSettled_errorEnvelope : errorEnvelope.IsSettled := by
  refine isSettled_ofFields (by decide) ?_
  simp only [List.forall_mem_cons]
  exact ⟨isSettled_screened rfl rfl fun _ => rfl, isSettled_screened rfl rfl fun _ => rfl,
    isSettled_screened rfl rfl fun _ => rfl, isSettled_screened rfl rfl fun _ => rfl, nofun⟩

theorem isSettled_signatureData : signatureData.IsSettled := by
  refine isSettled_ofFields (by decide) ?_
  simp only [List.forall_mem_cons]
  exact ⟨isSettled_screened rfl rfl fun _ => rfl, isSettled_screened rfl rfl fun _ => rfl,
    isSettled_screened rfl rfl fun _ => rfl, nofun⟩

theorem isSettled_of_mem_contracts : ∀ contract ∈ contracts, contract.2.IsSettled := by
  simp only [contracts, List.forall_mem_cons]
  refine ⟨?_, isSettled_errorEnvelope, ?_, ?_, ?_, ?_, ?_, ?_, ?_, ?_, isSettled_signatureData,
    nofun⟩
  -- the other schemas have no screens
  all_goals exact Schema.isSettled_of_isPlain _ rfl

/-- What a body was decoded to, dumped and decoded again, is the same as before. -/
theorem decoding_is_idempotent : ∀ contract ∈ contracts, ∀ (v : Value) (x : contract.2.Denotes),
    contract.2.decode v = .ok x → contract.2.decode (contract.2.dump x) = .ok x :=
  fun contract hcontract _ _ h =>
    Schema.decode_dump_of_decode (isSettled_of_mem_contracts contract hcontract) h

/-- Customer info with numbers and dates in forms that are not their own. -/
def laxInfo : Value :=
  .record [("request_date", .int 1590969600),
    ("request_date_ms", .text " 1590969600000".toText),
    ("subscriber", .record
      [("entitlements", .record
          [("pro", .record [("expires_date", .text "2020-07-01".toText),
            ("product_identifier", .text "monthly".toText)])]),
        ("first_seen", .text "1590969600".toText),
        ("non_subscriptions", .record
          [("coins", .list [.record [("id", .text "1".toText), ("is_sandbox", .text "Yes".toText),
            ("purchase_date", .int 0)]])]),
        ("original_app_user_id", .text "me".toText)])]

theorem lax_info_settles : ∃ info, customerInfo.decode laxInfo = .ok info ∧
    customerInfo.dump info ≠ laxInfo ∧ customerInfo.decode (customerInfo.dump info) = .ok info := by
  have hmem : ("CustomerInfoResponse", customerInfo) ∈ contracts := by simp [contracts]
  obtain ⟨info, hinfo⟩ : ∃ info, customerInfo.decode laxInfo = .ok info := ⟨_, rfl⟩
  exact ⟨info, hinfo, nofun, decoding_is_idempotent _ hmem laxInfo info hinfo⟩

end Body

end SubscriptionClient
