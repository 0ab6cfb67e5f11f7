import SubscriptionClient.Proofs.Body.Envelopes
import SubscriptionClient.Response.Basic

/-!
# Refusals

A refusal carries the code and the message of the envelope that a body holds. Both are lost with
the envelope.
-/

namespace SubscriptionClient

/-! ## Outcomes that cannot be told -/

namespace Attempt

variable {α : Type} {p : Prop}

/-- What it comes to when an integer of too many digits is to be written. -/
def unwritten : Attempt α := .error (.misuse .tooManyDigits)

theorem succeedsIff_ofValues {a : Except Misuse α} (h : SucceedsIff .tooManyDigits p a) :
    SucceedsIff (.misuse .tooManyDigits) p (ofValues a) := by
  refine ⟨fun hp => ?_, fun hp => by rw [h.error hp, ofValues]⟩
  obtain ⟨x, hx⟩ := h.ok hp
  exact ⟨x, by rw [hx, ofValues]⟩

end Attempt

namespace Fault

variable {e : ClientError}

theorem ofClientError_eq (h : ∃ t, e.message? = some t) : ofClientError e = .client e := by
  obtain ⟨t, ht⟩ := h
  rw [ofClientError, ht]

theorem ofClientError_eq_misuse (h : ¬∃ t, e.message? = some t) :
    ofClientError e = .misuse .tooManyDigits := by
  rw [← Option.isSome_iff_exists, Option.not_isSome_iff_eq_none] at h
  rw [ofClientError, h]

end Fault

namespace Envelope

variable {body : Value} {es : List (Value × Value)} {n : Int}

theorem statesCode_of_code (h : (ofBody (.map es)).code = some n) :
    Body.StatesCode (Value.member? "code" es) (some n) := by
  rw [ofBody] at h
  cases hdecode : Body.errorEnvelope.decode (.map es) with
  | error issues =>
    rw [hdecode] at h
    cases h
  | ok record =>
    obtain ⟨code, rest⟩ := record
    obtain ⟨hcode, -⟩ := Schema.decode_ofFields_cons_eq_ok_iff.mp hdecode
    rw [hdecode] at h
    obtain rfl : code = some n := h
    exact Body.readField_errorCode_iff.mp hcode

theorem ofBody_of_not_mapping (h : ∀ es, body ≠ .map es) : ofBody body = empty := by
  cases body with
  | map es => exact (h es rfl).elim
  | null | bool | int | float | text | bytes | decimal | dateTime | list => rfl

theorem isMalformed_map_iff : isMalformed (.map es) = true ↔
    ∃ issues, Body.errorEnvelope.decode (.map es) = .error issues := by
  unfold isMalformed
  cases Body.errorEnvelope.decode (.map es) with
  | error issues => exact iff_of_true rfl ⟨issues, rfl⟩
  | ok record => exact iff_of_false Bool.false_ne_true (by simp)

/-- A code that a body states can be written when the body can. -/
theorem isWritable_code (hw : body.isWritable = true) (h : (ofBody body).code = some n) :
    Numeral.isWritable n = true := by
  by_cases hmapping : ∃ es, body = .map es
  · obtain ⟨es, rfl⟩ := hmapping
    rcases statesCode_of_code h with hcode | ⟨u, -, hu, rfl⟩
    · exact Value.isWritable_of_member? (x := .int n) hw hcode
    · exact hu.isWritable_number
  · rw [ofBody_of_not_mapping fun es hes => hmapping ⟨es, hes⟩] at h
    cases h

end Envelope

namespace Response

variable {α : Type} {body : Value}

/-! ## What is said of a body -/

theorem succeedsIff_description? (h : body.IsTextKeyed) :
    SucceedsIff (.misuse .tooManyDigits) (body.isWritable = true) (description? body) :=
  Attempt.succeedsIff_ofValues (h.succeedsIff_describe? Value.describeLimit)

theorem succeedsIff_note (h : body.IsTextKeyed) :
    SucceedsIff (.misuse .tooManyDigits) (body.isWritable = true) (note body) :=
  (succeedsIff_description? h).map fun _ => ()

theorem note_eq (h : body.IsTextKeyed) (hw : body.isWritable = true) : note body = .ok () :=
  ((succeedsIff_note h).ok hw).choose_spec

/-- Whether an envelope can be asked of a body: one that holds none is described. -/
def IsDecodable (body : Value) : Prop := Envelope.isMalformed body = true → body.isWritable = true

theorem envelope?_eq (h : body.IsTextKeyed) (hd : IsDecodable body) :
    envelope? body = .ok (Envelope.ofBody body) := by
  rw [envelope?]
  cases hm : Envelope.isMalformed body with
  | false => rfl
  | true =>
    rw [note_eq h (hd hm)]
    rfl

theorem succeedsIff_envelope? (h : body.IsTextKeyed) :
    SucceedsIff (.misuse .tooManyDigits) (IsDecodable body) (envelope? body) := by
  refine ⟨fun hd => ⟨_, envelope?_eq h hd⟩, fun hd => ?_⟩
  obtain ⟨hm, hw⟩ := Classical.not_imp.mp hd
  rw [envelope?, hm, (succeedsIff_note h).error hw]
  rfl

/-- The refusal that a value describes. -/
def refusal (source status : Value) (info : Option CustomerInfo) : BackendRefusal where
  rawCode := .ofOption .int (Envelope.ofBody source).code
  backendMessage := .ofText? (Envelope.ofBody source).message
  status
  customerInfo := info

/-- Whether a refusal can tell what a body says. -/
structure IsTellable (body : Value) : Prop where
  isDecodable : IsDecodable body
  code : ∀ n, (Envelope.ofBody body).code = some n → Numeral.isWritable n = true

theorem isTellable_of_isWritable (h : body.isWritable = true) : IsTellable body :=
  ⟨fun _ => h, fun _ hn => Envelope.isWritable_code h hn⟩

theorem exists_shown? (other : Text) (t? : Option Text) :
    ∃ t, ClientError.shown? other (.ofText? t?) = some t := by
  rw [ClientError.shown?]
  split
  · cases t? <;> exact ⟨_, rfl⟩
  · exact ⟨other, rfl⟩

/-- The message of a refusal tells its code. -/
theorem exists_message?_iff (status : Value) (context : Context) (info : Option CustomerInfo) :
    (∃ t, ClientError.message? ⟨.backend (refusal body status info), context⟩ = some t) ↔
      ∀ n, (Envelope.ofBody body).code = some n → Numeral.isWritable n = true := by
  obtain ⟨detail, hdetail⟩ :=
    exists_shown? "no message".toText (Envelope.ofBody body).message
  show (∃ t, ClientError.backendMessage? (refusal body status info) = some t) ↔ _
  rw [ClientError.backendMessage?, refusal, hdetail]
  cases (Envelope.ofBody body).code with
  | none => exact iff_of_true ⟨_, rfl⟩ nofun
  | some n =>
    simp only [Value.ofOption, Value.isNull, Value.display?, Value.isWritable]
    cases hn : Numeral.isWritable n <;> simp [hn]

theorem refuse_eq (h : body.IsTextKeyed) (ht : IsTellable body) (status : Value)
    (context : Context) (info : Option CustomerInfo) :
    (refuse body status context info : Attempt α) =
      .error (.client ⟨.backend (refusal body status info), context⟩) := by
  rw [refuse, envelope?_eq h ht.isDecodable]
  exact congrArg Except.error
    (Fault.ofClientError_eq ((exists_message?_iff status context info).mpr ht.code))

theorem refuse_eq_unwritten (h : body.IsTextKeyed) (ht : ¬IsTellable body) (status : Value)
    (context : Context) (info : Option CustomerInfo) :
    (refuse body status context info : Attempt α) = .unwritten := by
  by_cases hd : IsDecodable body
  · have hcode := mt (exists_message?_iff status context info).mp fun hcode => ht ⟨hd, hcode⟩
    rw [refuse, envelope?_eq h hd]
    exact congrArg Except.error (Fault.ofClientError_eq_misuse hcode)
  · rw [refuse, (succeedsIff_envelope? h).error hd]
    rfl

/-! ## What a refusal keeps -/

variable {es : List (Value × Value)}

/-- Whether every list of attribute errors that an envelope looks at is one of mappings. -/
def HasReadableErrors (es : List (Value × Value)) : Prop :=
  (∃ top, Body.StatesTop (Value.member? "attribute_errors" es) top) ∧
    ∃ nested, Body.StatesResponse (Value.member? "attributes_error_response" es) nested

/-- What becomes of the code and the message of a body in its envelope and in its refusal. -/
structure Keeps (es : List (Value × Value)) (n : Int) (message : Text) (status : Value)
    (context : Context) (info : Option CustomerInfo) (refused : Attempt α) : Prop where
  envelope_iff : (∃ e, envelope? (.map es) = .ok e ∧ e.code = some n ∧ e.message = some message) ↔
    HasReadableErrors es
  kept : HasReadableErrors es → Numeral.isWritable n = true → ∃ r : BackendRefusal,
    refused = .error (.client ⟨.backend r, context⟩) ∧
      r = ⟨.int n, .text message, status, info⟩ ∧ BackendCode.ofValue r.rawCode = .ofNumber n
  lost : ¬HasReadableErrors es → (Value.map es).isWritable = true → ∃ r : BackendRefusal,
    refused = .error (.client ⟨.backend r, context⟩) ∧
      r = ⟨.null, .null, status, info⟩ ∧ BackendCode.ofValue r.rawCode = .unknown
  /-- A code of too many digits cannot be told, and a body that holds no envelope is described. -/
  unwritten : HasReadableErrors es ∧ Numeral.isWritable n = false ∨
    ¬HasReadableErrors es ∧ (Value.map es).isWritable = false → refused = .unwritten

theorem envelope_of_hasReadableErrors (h : (Value.map es).IsJson) {n : Int}
    {message : Text} (hcode : Value.member? "code" es = some (.int n))
    (hmessage : Value.member? "message" es = some (.text message)) (hread : HasReadableErrors es) :
    Envelope.isMalformed (.map es) = false ∧ (Envelope.ofBody (.map es)).code = some n ∧
      (Envelope.ofBody (.map es)).message = some message := by
  obtain ⟨⟨top, htop⟩, nested, hnested⟩ := hread
  have hstated : (⟨some n, some message, top, nested⟩ : Envelope).IsStatedBy es :=
    ⟨.inl hcode, hmessage, htop, hnested⟩
  rw [← Bool.not_eq_true, Envelope.isMalformed_map_iff, Envelope.fails_iff h,
    Envelope.ofBody_of_isStatedBy h hstated]
  exact ⟨fun hno => hno _ hstated, rfl, rfl⟩

theorem envelope_of_not_hasReadableErrors (h : (Value.map es).IsJson)
    (hread : ¬HasReadableErrors es) :
    Envelope.isMalformed (.map es) = true ∧ Envelope.ofBody (.map es) = .empty := by
  have hno : ∀ e : Envelope, ¬e.IsStatedBy es := fun e he => hread ⟨⟨_, he.top⟩, _, he.nested⟩
  exact ⟨Envelope.isMalformed_map_iff.mpr ((Envelope.fails_iff h).mpr hno),
    Envelope.ofBody_eq_empty h hno⟩

/-- Attribute errors that cannot be read cost the code and the message. -/
theorem code_and_message_survive_iff (α : Type) (h : (Value.map es).IsJson) {n : Int}
    {message : Text} (hcode : Value.member? "code" es = some (.int n))
    (hmessage : Value.member? "message" es = some (.text message)) (status : Value)
    (context : Context) (info : Option CustomerInfo) :
    Keeps es n message status context info
      (refuse (.map es) status context info : Attempt α) := by
  have htext := h.isTextKeyed
  by_cases hread : HasReadableErrors es
  · obtain ⟨hm, hn, ht⟩ := envelope_of_hasReadableErrors h hcode hmessage hread
    have hd : IsDecodable (.map es) := by
      intro hm'
      rw [hm] at hm'
      cases hm'
    have hrefusal : refusal (.map es) status info = ⟨.int n, .text message, status, info⟩ := by
      rw [refusal, hn, ht]
      rfl
    have htell : IsTellable (.map es) ↔ Numeral.isWritable n = true := by
      refine ⟨fun htell => htell.code n hn, fun hw => ⟨hd, fun m hm' => ?_⟩⟩
      rwa [← Option.some.inj (hn.symm.trans hm')]
    refine ⟨iff_of_true ⟨_, envelope?_eq htext hd, hn, ht⟩ hread, fun _ hw => ?_,
      fun hno => (hno hread).elim, ?_⟩
    · exact ⟨_, refuse_eq htext (htell.mpr hw) status context info, hrefusal, by rw [hrefusal]; rfl⟩
    · rintro (⟨-, hw⟩ | ⟨hno, -⟩)
      · exact refuse_eq_unwritten htext (by rw [htell, hw]; exact nofun) status context info
      · exact (hno hread).elim
  · obtain ⟨hm, hempty⟩ := envelope_of_not_hasReadableErrors h hread
    have hrefusal : refusal (.map es) status info = ⟨.null, .null, status, info⟩ := by
      rw [refusal, hempty]
      rfl
    refine ⟨iff_of_false ?_ hread, fun hyes => (hread hyes).elim, fun _ hw => ?_, ?_⟩
    · rintro ⟨e, he, hn, -⟩
      have hd := (succeedsIff_envelope? htext).ok_iff.mp ⟨e, he⟩
      cases (envelope?_eq htext hd).symm.trans he
      rw [hempty] at hn
      cases hn
    · exact ⟨_, refuse_eq htext (isTellable_of_isWritable hw) status context info, hrefusal,
        by rw [hrefusal]; rfl⟩
    · rintro (⟨hyes, -⟩ | ⟨-, hw⟩)
      · exact (hread hyes).elim
      · refine refuse_eq_unwritten htext (fun htell => ?_) status context info
        rw [htell.isDecodable hm] at hw
        cases hw

/-- A body with a code, a message and something in the place of attribute errors. -/
def besides (errors : Value) : List (Value × Value) :=
  (.text "attribute_errors".toText, errors) :: Envelope.coded (.int 7263)

theorem isJson_besides {errors : Value} (h : errors.IsJson) :
    (Value.map (besides errors)).IsJson := by
  have hn : ["attribute_errors".toText, "code".toText, "message".toText].Nodup := by decide
  show (Value.record [("attribute_errors", errors), ("code", .int 7263),
    ("message", .text "denied".toText)]).IsJson
  refine Value.isJson_record hn ?_
  simpa using ⟨h, .int _, .text _⟩

theorem statesResponse_besides (errors : Value) :
    Body.StatesResponse (Value.member? "attributes_error_response" (besides errors)) none :=
  fun _ => nofun

theorem text_for_errors_is_dropped :
    (Value.map (besides (.text "nope".toText))).IsJson ∧
      (refuse (.map (besides (.text "nope".toText))) (.int 400) [] none : Attempt Unit) =
        .error (.client
          ⟨.backend ⟨.int 7263, .text "denied".toText, .int 400, none⟩, []⟩) := by
  have hjson := isJson_besides (.text "nope".toText)
  have hread : HasReadableErrors (besides (.text "nope".toText)) :=
    ⟨⟨none, fun _ => nofun⟩, none, statesResponse_besides _⟩
  obtain ⟨r, hrefuse, rfl, -⟩ :=
    (code_and_message_survive_iff Unit hjson rfl rfl (.int 400) [] none).kept hread (by decide)
  exact ⟨hjson, hrefuse⟩

/-- A number among the attribute errors costs the code and the message. -/
theorem number_among_errors_costs_code :
    (Value.map (besides (.list [.int 1]))).IsJson ∧
      Value.member? "code" (besides (.list [.int 1])) = some (.int 7263) ∧
      Value.member? "message" (besides (.list [.int 1])) = some (.text "denied".toText) ∧
      Envelope.ofBody (.map (besides (.list [.int 1]))) = .empty ∧
      (refuse (.map (besides (.list [.int 1]))) (.int 400) [] none : Attempt Unit) =
        .error (.client ⟨.backend ⟨.null, .null, .int 400, none⟩, []⟩) := by
  have hjson : (Value.map (besides (.list [.int 1]))).IsJson :=
    isJson_besides (.list (by simpa using .int 1))
  exact ⟨hjson, rfl, rfl, rfl,
    refuse_eq hjson.isTextKeyed (isTellable_of_isWritable (by decide)) (.int 400) [] none⟩

end Response

end SubscriptionClient
