import Mathlib.Data.List.Nodup
import Mathlib.Data.Set.List
import SubscriptionClient.Body.Envelope
import SubscriptionClient.Proofs.Body.Fields
import SubscriptionClient.Proofs.Text.NumericTexts
import SubscriptionClient.Proofs.Value.Describing

/-!
# Error envelopes, member by member

An envelope is decoded from a body when each of its four members states something, if only that it
is absent. A code that looks numeric without being a code states nothing, nor does a list under the
name of attribute errors that holds anything but mappings.
-/

namespace SubscriptionClient

/-! ## Attribute errors -/

namespace AttributeError

variable {v : Value} {errors : List AttributeError}

theorem decode_toValue {e : AttributeError} (h : e.toValue.IsJson) :
    (Schema.mapping .anything).decode e.toValue = .ok e := by
  have hkeys : ((e.map Prod.fst).map Value.text).Nodup := by
    rw [List.map_map]
    simpa [Function.comp_def] using h.nodup_keys
  have hmembers : Decoded.members Scalar.text .ok (e.map fun m => (.text m.1, m.2)) = .ok e :=
    Decoded.members_map (g := id) fun _ _ => rfl
  show (Decoded.members Scalar.text .ok _).map Decoded.collectNamed = .ok e
  rw [hmembers, Except.map, Decoded.collectNamed_of_nodup (List.Nodup.of_map _ hkeys)]

theorem exists_toValue {members : List (Value × Value)} (h : (Value.map members).IsJson) :
    ∃ e, toValue e = .map members := by
  have hmem : members ∈ Set.range (List.map fun e : Text × Value => (Value.text e.1, e.2)) := by
    rw [Set.range_list_map]
    intro e he
    obtain ⟨t, ht⟩ := h.keys_text e he
    exact ⟨(t, e.2), Prod.ext ht.symm rfl⟩
  obtain ⟨e, he⟩ := hmem
  exact ⟨e, congrArg Value.map he⟩

theorem exists_toValue_of_decode {record : List (Text × Value)} (h : v.IsJson)
    (hv : (Schema.mapping .anything).decode v = .ok record) : ∃ e, toValue e = v := by
  cases v with
  | map members => exact exists_toValue h
  | null | bool | int | float | text | bytes | decimal | dateTime | list => cases hv

theorem decode_listToValue (h : (listToValue errors).IsJson) :
    Body.attributeErrorList.decode (listToValue errors) = .ok (some errors) := by
  have hitems : Decoded.items (Schema.mapping .anything).decode 0 (errors.map toValue) =
      .ok errors :=
    Decoded.items_map (fun e he => decode_toValue (h.of_mem_list (List.mem_map_of_mem he))) 0
  exact congrArg (Except.map some) hitems

theorem exists_listToValue_of_decode {vs : List Value} {record : List (List (Text × Value))}
    (h : (Value.list vs).IsJson)
    (hvs : Decoded.items (Schema.mapping .anything).decode 0 vs = .ok record) :
    ∃ errors, listToValue errors = .list vs := by
  have hmem : vs ∈ Set.range (List.map toValue) := by
    rw [Set.range_list_map]
    intro v hv
    obtain ⟨e, he⟩ := Decoded.exists_of_items_eq_ok hvs v hv
    exact exists_toValue_of_decode (h.of_mem_list hv) he
  obtain ⟨errors, herrors⟩ := hmem
  exact ⟨errors, congrArg Value.list herrors⟩

end AttributeError

namespace Body

/-! ## What members state -/

section States

variable (v : Option Value)

def StatesMessage : Option Text → Prop
  | some t => v = some (.text t)
  | none => ∀ t, v ≠ some (.text t)

/-- A code comes as an integer or as text; it is absent if the member is neither an integer nor
text that looks numeric. -/
def StatesCode : Option Int → Prop
  | some n => v = some (.int n) ∨
      ∃ u : NumericText, v = some (.text u.text) ∧ u.IsCode ∧ u.number = n
  | none => (∀ n, v ≠ some (.int n)) ∧ ∀ u : NumericText, v ≠ some (.text u.text)

/-- Attribute errors in a response are a list of mappings, null or missing. -/
def StatesErrors : Option (List AttributeError) → Prop
  | some errors => v = some (AttributeError.listToValue errors)
  | none => v = none ∨ v = some .null

/-- At the top of an envelope all but lists are as good as missing. -/
def StatesTop : Option (List AttributeError) → Prop
  | some errors => v = some (AttributeError.listToValue errors)
  | none => ∀ vs, v ≠ some (.list vs)

def StatesResponse : Option (Option (List AttributeError)) → Prop
  | some errors => ∃ members, v = some (.map members) ∧
      StatesErrors (Value.member? "attribute_errors" members) errors
  | none => ∀ members, v ≠ some (.map members)

end States

variable {v : Value}

theorem decode_message_iff {message : Option Text} :
    (Schema.screened textOrAbsent (.nullable .text)).decode v = .ok message ↔
      StatesMessage (some v) message := by
  cases v with
  | text t =>
    show Except.ok (some t) = Except.ok message ↔ _
    cases message <;> simp [StatesMessage]
  | null | bool | int | float | bytes | decimal | dateTime | list | map =>
    show Except.ok none = Except.ok message ↔ _
    cases message <;> simp [StatesMessage]

theorem decode_attributeErrorList_iff {errors : Option (List AttributeError)} (h : v.IsJson) :
    attributeErrorList.decode v = .ok errors ↔ StatesErrors (some v) errors := by
  constructor
  · intro hv
    cases v with
    | null =>
      cases hv
      exact .inr rfl
    | list vs =>
      cases hitems : Decoded.items (Schema.mapping .anything).decode 0 vs with
      | error issues =>
        have hfails : attributeErrorList.decode (.list vs) = .error issues :=
          congrArg (Except.map some) hitems
        cases hfails.symm.trans hv
      | ok record =>
        obtain ⟨es, hes⟩ := AttributeError.exists_listToValue_of_decode h hitems
        rw [← hes] at h hv ⊢
        cases (AttributeError.decode_listToValue h).symm.trans hv
        rfl
    | bool | int | float | text | bytes | decimal | dateTime | map => cases hv
  · intro hstates
    cases errors with
    | none =>
      rcases hstates with hnone | hnull
      · cases hnone
      · cases hnull
        rfl
    | some errors =>
      cases hstates
      exact AttributeError.decode_listToValue h

theorem decode_top_iff {errors : Option (List AttributeError)} (h : v.IsJson) :
    (Schema.screened listOrAbsent attributeErrorList).decode v = .ok errors ↔
      StatesTop (some v) errors := by
  cases v with
  | list vs =>
    show attributeErrorList.decode (.list vs) = .ok errors ↔ _
    refine (decode_attributeErrorList_iff h).trans ?_
    cases errors <;> simp [StatesErrors, StatesTop]
  | null | bool | int | float | text | bytes | decimal | dateTime | map =>
    show Except.ok none = Except.ok errors ↔ _
    cases errors <;> simp [StatesTop, AttributeError.listToValue]

theorem decode_attributesErrorResponse_iff {members : List (Value × Value)}
    {errors : Option (List AttributeError)} (h : (Value.map members).IsJson) :
    attributesErrorResponse.decode (.map members) = .ok (errors, ()) ↔
      StatesErrors (Value.member? "attribute_errors" members) errors := by
  refine (Schema.decode_ofFields_cons_eq_ok_iff.trans (and_iff_left rfl)).trans ?_
  refine Schema.readField_eq_ok_iff (P := (StatesErrors · errors)) ?_
    fun v hv => decode_attributeErrorList_iff (h.of_member? hv)
  show none = errors ↔ _
  cases errors <;> simp [StatesErrors]

/-- The schema of the member that holds a response of its own. -/
abbrev nestedResponse : Schema := .screened mappingOrAbsent (.nullable attributesErrorResponse)

theorem decode_nestedResponse_iff {nested : Option attributesErrorResponse.Denotes}
    (h : v.IsJson) : nestedResponse.decode v = .ok nested ↔
      StatesResponse (some v) (nested.map Envelope.nestedOfRecord) := by
  cases v with
  | map members =>
    show (attributesErrorResponse.decode (.map members)).map some = .ok nested ↔ _
    rcases nested with _ | ⟨errors, ⟨⟩⟩
    · simp [Decoded.map_some_ne_ok_none, StatesResponse]
    · refine (Decoded.map_some_eq_ok_iff.trans (decode_attributesErrorResponse_iff h)).trans ?_
      show _ ↔ ∃ ms, some (Value.map members) = some (.map ms) ∧
        StatesErrors (Value.member? "attribute_errors" ms) errors
      simp
  | null | bool | int | float | text | bytes | decimal | dateTime | list =>
    show Except.ok none = Except.ok nested ↔ _
    cases nested <;> simp [StatesResponse]

/-- The schema of the member that holds the code. -/
abbrev errorCode : Schema := .screened codeOrAbsent (.nullable .integer)

theorem codeOrAbsent_text (u : NumericText) :
    codeOrAbsent (.text u.text) = (Numeral.decimal? u.text).map .int :=
  if_pos (NumericText.exists_text_eq_iff.mp ⟨u, rfl⟩)

theorem codeOrAbsent_of_not_numeric {t : Text} (h : ∀ u : NumericText, u.text ≠ t) :
    codeOrAbsent (.text t) = some .null := by
  refine if_neg fun hlooks => ?_
  obtain ⟨u, hu⟩ := NumericText.exists_text_eq_iff.mpr hlooks
  exact h u hu

theorem decode_of_isCode {u : NumericText} (h : u.IsCode) :
    errorCode.decode (.text u.text) = .ok (some u.number) := by
  refine Schema.decode_screened (w := .int u.number) ?_
  rw [codeOrAbsent_text, NumericText.decimal?_text h]
  rfl

theorem decode_of_not_isCode {u : NumericText} (h : ¬u.IsCode) :
    errorCode.decode (.text u.text) = .fail .refused := by
  refine Schema.decode_screened_none ?_
  rw [codeOrAbsent_text, Option.map_eq_none_iff, Option.eq_none_iff_forall_ne_some]
  exact fun n hn => h (NumericText.isCode_of_decimal? hn)

/-- A numeric text that is no code is all that states nothing. -/
theorem exists_statesCode_iff {v : Option Value} : (∃ n?, StatesCode v n?) ↔
    ¬∃ u : NumericText, v = some (.text u.text) ∧ ¬u.IsCode := by
  constructor
  · rintro ⟨_ | n, hn⟩ ⟨u, rfl, hcode⟩
    · exact hn.2 u rfl
    · rcases hn with hinteger | ⟨u', htext, hcode', -⟩
      · cases hinteger
      · obtain rfl := NumericText.text_inj (Value.text.inj (Option.some.inj htext))
        exact hcode hcode'
  · intro hno
    by_cases hinteger : ∃ n, v = some (.int n)
    · obtain ⟨n, hn⟩ := hinteger
      exact ⟨some n, .inl hn⟩
    by_cases htext : ∃ u : NumericText, v = some (.text u.text)
    · obtain ⟨u, hu⟩ := htext
      have hcode : u.IsCode := by_contra fun hcode => hno ⟨u, hu, hcode⟩
      exact ⟨some u.number, .inr ⟨u, hu, hcode, rfl⟩⟩
    exact ⟨none, fun n hn => hinteger ⟨n, hn⟩, fun u hu => htext ⟨u, hu⟩⟩

theorem decode_text_iff {t : Text} {n? : Option Int} :
    errorCode.decode (.text t) = .ok n? ↔ StatesCode (some (.text t)) n? := by
  have hdecode {m? : Option Int} (h : StatesCode (some (.text t)) m?) :
      errorCode.decode (.text t) = .ok m? := by
    cases m? with
    | none =>
      have hno : ∀ u : NumericText, u.text ≠ t := by
        rintro u rfl
        exact h.2 u rfl
      exact Schema.decode_screened (codeOrAbsent_of_not_numeric hno)
    | some n =>
      rcases h with hinteger | ⟨u, htext, hcode, rfl⟩
      · cases hinteger
      · cases htext
        exact decode_of_isCode hcode
  refine ⟨fun hok => ?_, hdecode⟩
  -- what the text states has been decoded, so it is left that the text states something
  by_cases hstates : ∃ m?, StatesCode (some (.text t)) m?
  · obtain ⟨m?, hm⟩ := hstates
    cases (hdecode hm).symm.trans hok
    exact hm
  · rw [exists_statesCode_iff, not_not] at hstates
    obtain ⟨u, htext, hcode⟩ := hstates
    cases htext
    cases (decode_of_not_isCode hcode).symm.trans hok

theorem decode_errorCode_iff {n? : Option Int} :
    errorCode.decode v = .ok n? ↔ StatesCode (some v) n? := by
  cases v with
  | int n =>
    show Except.ok (some n) = Except.ok n? ↔ _
    cases n? <;> simp [StatesCode]
  | text t => exact decode_text_iff
  | null | bool | float | bytes | decimal | dateTime | list | map =>
    show Except.ok none = Except.ok n? ↔ _
    cases n? <;> simp [StatesCode]

/-! ## Fields -/

section Fields

variable {es : List (Value × Value)}

theorem readField_errorCode_iff {n? : Option Int} :
    errorCode.readField "code" es = .ok n? ↔ StatesCode (Value.member? "code" es) n? := by
  refine Schema.readField_eq_ok_iff (P := (StatesCode · n?)) ?_ fun v _ => decode_errorCode_iff
  show none = n? ↔ _
  cases n? <;> simp [StatesCode]

theorem readField_message_iff {message : Option Text} :
    (Schema.screened textOrAbsent (.nullable .text)).readField "message" es = .ok message ↔
      StatesMessage (Value.member? "message" es) message := by
  refine Schema.readField_eq_ok_iff (P := (StatesMessage · message)) ?_
    fun v _ => decode_message_iff
  show none = message ↔ _
  cases message <;> simp [StatesMessage]

theorem readField_top_iff {errors : Option (List AttributeError)} (h : (Value.map es).IsJson) :
    (Schema.screened listOrAbsent attributeErrorList).readField "attribute_errors" es =
        .ok errors ↔
      StatesTop (Value.member? "attribute_errors" es) errors := by
  refine Schema.readField_eq_ok_iff (P := (StatesTop · errors)) ?_
    fun v hv => decode_top_iff (h.of_member? hv)
  show none = errors ↔ _
  cases errors <;> simp [StatesTop]

theorem readField_nestedResponse_iff {nested : Option attributesErrorResponse.Denotes}
    (h : (Value.map es).IsJson) :
    nestedResponse.readField "attributes_error_response" es = .ok nested ↔
      StatesResponse (Value.member? "attributes_error_response" es)
        (nested.map Envelope.nestedOfRecord) := by
  refine Schema.readField_eq_ok_iff (P := (StatesResponse · (nested.map Envelope.nestedOfRecord)))
    ?_ fun v hv => decode_nestedResponse_iff (h.of_member? hv)
  show none = nested ↔ _
  cases nested <;> simp [StatesResponse]

end Fields

end Body

/-! ## Whole envelopes -/

namespace Envelope

variable {es : List (Value × Value)} {e : Envelope}

/-- Whether the members of a body state the parts of an envelope. -/
structure IsStatedBy (es : List (Value × Value)) (e : Envelope) : Prop where
  code : Body.StatesCode (Value.member? "code" es) e.code
  message : Body.StatesMessage (Value.member? "message" es) e.message
  top : Body.StatesTop (Value.member? "attribute_errors" es) e.attributeErrors
  nested : Body.StatesResponse (Value.member? "attributes_error_response" es) e.nested

theorem decode_eq_ok_iff (h : (Value.map es).IsJson) {record : Body.errorEnvelope.Denotes} :
    Body.errorEnvelope.decode (.map es) = .ok record ↔ (ofRecord record).IsStatedBy es := by
  obtain ⟨code, message, errors, nested, ⟨⟩⟩ := record
  constructor
  · intro hdecode
    obtain ⟨hcode, hdecode⟩ := Schema.decode_ofFields_cons_eq_ok_iff.mp hdecode
    obtain ⟨hmessage, hdecode⟩ := Schema.decode_ofFields_cons_eq_ok_iff.mp hdecode
    obtain ⟨htop, hdecode⟩ := Schema.decode_ofFields_cons_eq_ok_iff.mp hdecode
    obtain ⟨hnested, -⟩ := Schema.decode_ofFields_cons_eq_ok_iff.mp hdecode
    exact ⟨Body.readField_errorCode_iff.mp hcode, Body.readField_message_iff.mp hmessage,
      (Body.readField_top_iff h).mp htop, (Body.readField_nestedResponse_iff h).mp hnested⟩
  · intro hstated
    refine Schema.decode_ofFields_cons_eq_ok_iff.mpr ⟨?_, ?_⟩
    · exact Body.readField_errorCode_iff.mpr hstated.code
    refine Schema.decode_ofFields_cons_eq_ok_iff.mpr ⟨?_, ?_⟩
    · exact Body.readField_message_iff.mpr hstated.message
    refine Schema.decode_ofFields_cons_eq_ok_iff.mpr ⟨?_, ?_⟩
    · exact (Body.readField_top_iff h).mpr hstated.top
    refine Schema.decode_ofFields_cons_eq_ok_iff.mpr ⟨?_, rfl⟩
    exact (Body.readField_nestedResponse_iff h).mpr hstated.nested

theorem exists_ofRecord (e : Envelope) : ∃ record, ofRecord record = e := by
  obtain ⟨code, message, errors, nested⟩ := e
  refine ⟨(code, message, errors, nested.map (·, ()), ()), ?_⟩
  cases nested <;> rfl

theorem eq_of_isStatedBy (h : (Value.map es).IsJson) {record : Body.errorEnvelope.Denotes}
    (hdecode : Body.errorEnvelope.decode (.map es) = .ok record) (he : e.IsStatedBy es) :
    ofRecord record = e := by
  obtain ⟨record', rfl⟩ := exists_ofRecord e
  rw [Except.ok.inj (hdecode.symm.trans ((decode_eq_ok_iff h).mpr he))]

theorem ofBody_of_isStatedBy (h : (Value.map es).IsJson) (he : e.IsStatedBy es) :
    ofBody (.map es) = e := by
  obtain ⟨record, rfl⟩ := exists_ofRecord e
  rw [ofBody, (decode_eq_ok_iff h).mpr he]

theorem fails_iff (h : (Value.map es).IsJson) :
    (∃ issues, Body.errorEnvelope.decode (.map es) = .error issues) ↔
      ∀ e : Envelope, ¬e.IsStatedBy es := by
  constructor
  · rintro ⟨issues, hissues⟩ e he
    obtain ⟨record, rfl⟩ := exists_ofRecord e
    cases hissues.symm.trans ((decode_eq_ok_iff h).mpr he)
  · intro hno
    cases hdecode : Body.errorEnvelope.decode (.map es) with
    | ok record => exact (hno _ ((decode_eq_ok_iff h).mp hdecode)).elim
    | error issues => exact ⟨issues, rfl⟩

/-- An envelope is lost as a whole when a single member states nothing. -/
theorem ofBody_eq_empty (h : (Value.map es).IsJson) (hno : ∀ e : Envelope, ¬e.IsStatedBy es) :
    ofBody (.map es) = empty := by
  obtain ⟨issues, hissues⟩ := (fails_iff h).mpr hno
  rw [ofBody, hissues]

theorem code_costs_envelope_iff (h : (Value.map es).IsJson) {message : Text}
    (hmessage : Value.member? "message" es = some (.text message))
    {top : Option (List AttributeError)} {nested : Option (Option (List AttributeError))}
    (htop : Body.StatesTop (Value.member? "attribute_errors" es) top)
    (hnested : Body.StatesResponse (Value.member? "attributes_error_response" es) nested) :
    ((∃ issues, Body.errorEnvelope.decode (.map es) = .error issues) ↔
      ∃ u : NumericText, Value.member? "code" es = some (.text u.text) ∧ ¬u.IsCode) ∧
    ∀ record, Body.errorEnvelope.decode (.map es) = .ok record →
      (∀ n, (ofRecord record).code = some n ↔ Value.member? "code" es = some (.int n) ∨
        ∃ u : NumericText, Value.member? "code" es = some (.text u.text) ∧ u.IsCode ∧
          u.number = n) ∧
      (ofRecord record).message = some message ∧
      (ofRecord record).resolvedErrors = nested.getD top := by
  have hstated {n? : Option Int} (hcode : Body.StatesCode (Value.member? "code" es) n?) :
      (⟨n?, some message, top, nested⟩ : Envelope).IsStatedBy es :=
    ⟨hcode, hmessage, htop, hnested⟩
  refine ⟨(fails_iff h).trans ⟨fun hno => ?_, fun hcode e he => ?_⟩, fun record hrecord => ?_⟩
  · -- all other members state something, so the code does not
    by_contra hcode
    obtain ⟨n?, hn⟩ := Body.exists_statesCode_iff.mpr hcode
    exact hno _ (hstated hn)
  · exact Body.exists_statesCode_iff.mp ⟨_, he.code⟩ hcode
  · have hcode := ((decode_eq_ok_iff h).mp hrecord).code
    have heq := eq_of_isStatedBy h hrecord (hstated hcode)
    refine ⟨fun n => ⟨fun hn => ?_, fun hn => ?_⟩, ?_, ?_⟩
    · rw [hn] at hcode
      exact hcode
    · rw [eq_of_isStatedBy h hrecord (@hstated (some n) hn)]
    · rw [heq]
    · rw [heq]
      rfl

/-- A body with a code, a message and nothing else. -/
def coded (code : Value) : List (Value × Value) :=
  [(.text "code".toText, code), (.text "message".toText, .text "denied".toText)]

theorem isJson_coded {code : Value} (h : code.IsJson) : (Value.map (coded code)).IsJson := by
  have hn : ["code".toText, "message".toText].Nodup := by decide
  show (Value.record [("code", code), ("message", .text "denied".toText)]).IsJson
  refine Value.isJson_record hn ?_
  simpa using ⟨h, .text _⟩

theorem statesTop_coded (code : Value) :
    Body.StatesTop (Value.member? "attribute_errors" (coded code)) none :=
  fun _ => nofun

theorem statesResponse_coded (code : Value) :
    Body.StatesResponse (Value.member? "attributes_error_response" (coded code)) none :=
  fun _ => nofun

def negativeCode : NumericText where
  before := " ".toText
  dashes := 1
  digits := "7101".toText
  after := "\n".toText
  isBlank_before := List.all_eq_true.mp (by decide)
  digits_ne_nil := by decide
  isDigit_digits := List.all_eq_true.mp (by decide)
  isBlank_after := List.all_eq_true.mp (by decide)

theorem isCode_negativeCode : negativeCode.IsCode where
  isWhiteSpace_before := List.all_eq_true.mp (by decide)
  dashes_le := by decide
  isDecimal := List.all_eq_true.mp (by decide)
  length_le := by decide
  isWhiteSpace_after := List.all_eq_true.mp (by decide)

theorem negative_code_is_read :
    (Value.map (coded (.text negativeCode.text))).IsJson ∧ ∃ record,
      Body.errorEnvelope.decode (.map (coded (.text negativeCode.text))) = .ok record ∧
      (ofRecord record).code = some (-7101) ∧
      (ofRecord record).message = some "denied".toText ∧
      (ofRecord record).resolvedErrors = none := by
  have hjson := isJson_coded (.text negativeCode.text)
  obtain ⟨hfails, hread⟩ :=
    code_costs_envelope_iff hjson rfl (statesTop_coded _) (statesResponse_coded _)
  refine ⟨hjson, ?_⟩
  cases hdecode : Body.errorEnvelope.decode (.map (coded (.text negativeCode.text))) with
  | error issues =>
    obtain ⟨u, hu, hcode⟩ := hfails.mp ⟨issues, hdecode⟩
    obtain rfl : negativeCode = u := NumericText.text_inj (Value.text.inj (Option.some.inj hu))
    exact (hcode isCode_negativeCode).elim
  | ok record =>
    obtain ⟨hcode, hmessage, herrors⟩ := hread record hdecode
    have hstated := (hcode (-7101)).mpr (.inr ⟨negativeCode, rfl, isCode_negativeCode, by decide⟩)
    exact ⟨record, rfl, hstated, hmessage, herrors⟩

/-- A superscript counts as a digit but not as a numeral. It costs the message, too. -/
theorem superscript_costs_message :
    (Value.map (coded (.text "²".toText))).IsJson ∧
      Value.member? "message" (coded (.text "²".toText)) = some (.text "denied".toText) ∧
      Body.StatesTop (Value.member? "attribute_errors" (coded (.text "²".toText))) none ∧
      Body.StatesResponse (Value.member? "attributes_error_response" (coded (.text "²".toText)))
        none ∧
      (∃ issues, Body.errorEnvelope.decode (.map (coded (.text "²".toText))) = .error issues) ∧
      ofBody (.map (coded (.text "²".toText))) = empty :=
  ⟨isJson_coded (.text _), rfl, statesTop_coded _, statesResponse_coded _, ⟨_, rfl⟩, rfl⟩

end Envelope

end SubscriptionClient
