import SubscriptionClient.Proofs.Response.Refusals
import SubscriptionClient.Proofs.Value.Members

/-!
# Evidence for envelopes

Whatever an envelope says stands in the body that it was decoded from. A code says the same whether
it comes as an integer or as the text of that integer.
-/

namespace SubscriptionClient

namespace Envelope

variable {es : List (Value × Value)} {e : Envelope} {body : Value} {n : Int}

/-! ## What is found in a body -/

/-- Whether all that an envelope says is found in a body. -/
structure IsFoundIn (e : Envelope) (body : Value) : Prop where
  /-- A code is the integer itself, or the number that a text is read as. -/
  code : ∀ n, e.code = some n → Value.member? "code" body.members = some (.int n) ∨
    ∃ u : NumericText, Value.member? "code" body.members = some (.text u.text) ∧ u.IsCode ∧
      u.number = n
  message : ∀ t, e.message = some t → Value.member? "message" body.members = some (.text t)
  /-- A response of its own decides on the attribute errors. -/
  nested : ∀ errors response, e.resolvedErrors = some errors →
    Value.member? "attributes_error_response" body.members = some (.map response) →
    Value.member? "attribute_errors" response = some (AttributeError.listToValue errors)
  top : ∀ errors, e.resolvedErrors = some errors →
    (∀ response, Value.member? "attributes_error_response" body.members ≠ some (.map response)) →
    Value.member? "attribute_errors" body.members = some (AttributeError.listToValue errors)

theorem isFoundIn_empty (body : Value) : empty.IsFoundIn body where
  code := nofun
  message := nofun
  nested := nofun
  top := nofun

theorem IsStatedBy.isFoundIn (he : e.IsStatedBy es) : e.IsFoundIn (.map es) := by
  obtain ⟨code, message, top, nested⟩ := e
  refine ⟨?_, ?_, ?_, ?_⟩
  · rintro n rfl
    exact he.code
  · rintro t rfl
    exact he.message
  · intro errors response herrors hresponse
    have hnested := he.nested
    cases nested with
    | none => exact (hnested response hresponse).elim
    | some nested =>
      obtain rfl : nested = some errors := herrors
      obtain ⟨members, hmembers, hstates⟩ := hnested
      cases hresponse.symm.trans hmembers
      exact hstates
  · intro errors herrors hno
    have hnested := he.nested
    cases nested with
    | none =>
      obtain rfl : top = some errors := herrors
      exact he.top
    | some nested =>
      obtain ⟨members, hmembers, -⟩ := hnested
      exact (hno members hmembers).elim

/-- An envelope is decoded as the members of a body state it, or it is empty. -/
theorem isStatedBy_or_eq_empty (h : (Value.map es).IsJson) :
    (ofBody (.map es)).IsStatedBy es ∨ ofBody (.map es) = empty := by
  by_cases hstated : ∃ e : Envelope, e.IsStatedBy es
  · obtain ⟨e, he⟩ := hstated
    rw [ofBody_of_isStatedBy h he]
    exact .inl he
  · exact .inr (ofBody_eq_empty h fun e he => hstated ⟨e, he⟩)

theorem isFoundIn_ofBody (h : body.IsJson) : (ofBody body).IsFoundIn body := by
  by_cases hmapping : ∃ es, body = .map es
  · obtain ⟨es, rfl⟩ := hmapping
    rcases isStatedBy_or_eq_empty h with hstated | hempty
    · exact hstated.isFoundIn
    · rw [hempty]
      exact isFoundIn_empty (.map es)
  · rw [ofBody_of_not_mapping fun es hes => hmapping ⟨es, hes⟩]
    exact isFoundIn_empty body

/-- The members that attribute errors are found in. -/
def errorNames : List String := ["attribute_errors", "attributes_error_response"]

theorem resolvedErrors_without (h : body.IsJson) :
    (ofBody (body.without errorNames)).resolvedErrors = none := by
  have hfound := isFoundIn_ofBody (h.without errorNames)
  have htop := Value.member?_without_of_mem
    (show "attribute_errors" ∈ errorNames by decide) body
  have hresponse := Value.member?_without_of_mem
    (show "attributes_error_response" ∈ errorNames by decide) body
  refine Option.eq_none_iff_forall_ne_some.mpr fun errors herrors => ?_
  have hstated := hfound.top errors herrors (by simp [hresponse])
  rw [htop] at hstated
  cases hstated

/-! ## Codes as text -/

theorem decode_errorCode_ofInt (h : n.natAbs < 10 ^ Numeral.digitLimit) :
    Body.errorCode.decode (.text (Text.ofInt n)) = .ok (some n) := by
  have hcode := Body.decode_of_isCode (NumericText.isCode_ofInt h)
  rwa [NumericText.text_ofInt, NumericText.number_ofInt] at hcode

/-- A body in which the code stands as text. -/
def respelled (n : Int) (body : Value) : Value :=
  .map (Value.put (.text "code".toText) (.text (Text.ofInt n)) body.members)

theorem decode_respelled (h : n.natAbs < 10 ^ Numeral.digitLimit)
    (hcode : Value.member? "code" es = some (.int n)) :
    Body.errorEnvelope.decode (respelled n (.map es)) = Body.errorEnvelope.decode (.map es) := by
  refine Schema.decode_ofFields_congr (List.forall_mem_cons.mpr ⟨?_, fun f hf => ?_⟩)
  · rw [hcode, Value.member?_put_self]
    exact congrArg some (decode_errorCode_ofInt h)
  · have hne : f.1 ≠ "code" := by
      revert f
      decide
    rw [Value.member?_put_of_ne hne]
    rfl

theorem isWritable_respelled (h : n.natAbs < 10 ^ Numeral.digitLimit)
    (hcode : Value.member? "code" es = some (.int n)) :
    (respelled n (.map es)).isWritable = (Value.map es).isWritable := by
  refine Value.isWritable_put hcode ?_ rfl
  rw [Value.isWritable]
  exact Numeral.isWritable_iff.mpr h

end Envelope

namespace Response

variable {body : Value}

theorem envelope?_respelled {es : List (Value × Value)} {n : Int} (h : (Value.map es).IsJson)
    (hn : n.natAbs < 10 ^ Numeral.digitLimit)
    (hcode : Value.member? "code" es = some (.int n)) :
    envelope? (Envelope.respelled n (.map es)) = envelope? (.map es) := by
  have hdecode := Envelope.decode_respelled hn hcode
  have hjson : (Envelope.respelled n (.map es)).IsJson := h.put (.text _)
  have hbody : Envelope.ofBody (Envelope.respelled n (.map es)) = Envelope.ofBody (.map es) := by
    rw [Envelope.ofBody, Envelope.ofBody, hdecode]
  have hmalformed : Envelope.isMalformed (Envelope.respelled n (.map es)) = true ↔
      Envelope.isMalformed (.map es) = true := by
    rw [Envelope.isMalformed_map_iff, ← hdecode]
    exact Envelope.isMalformed_map_iff
  have hd : IsDecodable (Envelope.respelled n (.map es)) ↔ IsDecodable (.map es) := by
    rw [IsDecodable, IsDecodable, Envelope.isWritable_respelled hn hcode, hmalformed]
  by_cases hdecodable : IsDecodable (.map es)
  · rw [envelope?_eq hjson.isTextKeyed (hd.mpr hdecodable), envelope?_eq h.isTextKeyed hdecodable,
      hbody]
  · rw [(succeedsIff_envelope? hjson.isTextKeyed).error (mt hd.mp hdecodable),
      (succeedsIff_envelope? h.isTextKeyed).error hdecodable]

/-- An envelope is decoded unless a body that holds none cannot be described. It holds what the body
states and nothing else. -/
theorem envelope_invents_nothing (h : body.IsJson) :
    ((Envelope.isMalformed body = true → body.isWritable = true) →
        envelope? body = .ok (Envelope.ofBody body)) ∧
      (Envelope.isMalformed body = true → body.isWritable = false →
        envelope? body = .unwritten) ∧
      (Envelope.ofBody body).IsFoundIn body ∧
      (∀ es e, body = .map es → Envelope.IsStatedBy es e → Envelope.ofBody body = e) ∧
      ((∀ es, body ≠ .map es) → Envelope.ofBody body = .empty) ∧
      ∀ n : Int, n.natAbs < 10 ^ Numeral.digitLimit →
        Value.member? "code" body.members = some (.int n) →
        envelope? (Envelope.respelled n body) = envelope? body := by
  refine ⟨envelope?_eq h.isTextKeyed, fun hm hw => ?_, Envelope.isFoundIn_ofBody h, ?_,
    Envelope.ofBody_of_not_mapping, ?_⟩
  · refine (succeedsIff_envelope? h.isTextKeyed).error fun hd => ?_
    rw [hd hm] at hw
    cases hw
  · rintro es e rfl he
    exact Envelope.ofBody_of_isStatedBy h he
  · intro n hn hcode
    cases body with
    | map es => exact envelope?_respelled h hn hcode
    | null | bool | int | float | text | bytes | decimal | dateTime | list => cases hcode

/-- What a body may say of an attribute that it refuses. -/
def mailErrors : Value := .list [.record [("key", .text "mail".toText)]]

theorem isJson_mailErrors : mailErrors.IsJson := by
  have herror : (Value.record [("key", .text "mail".toText)]).IsJson :=
    Value.isJson_record (List.nodup_singleton _) (by simpa using .text _)
  exact .list (by simpa using herror)

/-- A body in which two lists of attribute errors compete. -/
def competing : Value :=
  .record [("attribute_errors", .list []),
    ("attributes_error_response", .record [("attribute_errors", mailErrors)]),
    ("code", .int (-7101))]

theorem isJson_competing : competing.IsJson := by
  have hresponse : (Value.record [("attribute_errors", mailErrors)]).IsJson :=
    Value.isJson_record (List.nodup_singleton _) (by simpa using isJson_mailErrors)
  have hempty : (Value.list []).IsJson := .list nofun
  exact Value.isJson_record (by decide) (by simpa using ⟨hempty, hresponse, .int _⟩)

theorem nested_errors_are_found :
    competing.IsJson ∧
      (∃ e, envelope? competing = .ok e ∧
        e.resolvedErrors = some [[("key".toText, .text "mail".toText)]]) ∧
      (-7101 : Int).natAbs < 10 ^ Numeral.digitLimit ∧
      envelope? (Envelope.respelled (-7101) competing) = envelope? competing := by
  have hlimit : (-7101 : Int).natAbs < 10 ^ Numeral.digitLimit :=
    (by decide : (7101 : Nat) < 10 ^ 4).trans_le (Nat.pow_le_pow_right (by decide) (by decide))
  obtain ⟨henvelope, -, -, -, -, hspelled⟩ := envelope_invents_nothing isJson_competing
  exact ⟨isJson_competing, ⟨_, henvelope fun _ => by decide, rfl⟩, hlimit,
    hspelled (-7101) hlimit rfl⟩

/-- A body that holds no envelope and cannot be described. -/
def indescribable : Value :=
  .record [("attribute_errors", .list [.int 1]), ("x", .int Numeral.huge)]

theorem isJson_indescribable : indescribable.IsJson :=
  Value.isJson_record (by decide) (by simpa using ⟨.list (by simpa using .int 1), .int _⟩)

theorem isWritable_indescribable : indescribable.isWritable = false := by
  have hx : Value.member? "x" indescribable.members = some (.int Numeral.huge) := rfl
  exact Value.isWritable_of_huge hx

/-- No envelope comes from a body that would have to be described first and cannot be. -/
theorem indescribable_has_no_envelope :
    indescribable.IsJson ∧ envelope? indescribable = .unwritten :=
  ⟨isJson_indescribable, (succeedsIff_envelope? isJson_indescribable.isTextKeyed).error fun hd => by
    rw [IsDecodable, isWritable_indescribable] at hd
    exact Bool.false_ne_true (hd rfl)⟩

end Response

end SubscriptionClient
