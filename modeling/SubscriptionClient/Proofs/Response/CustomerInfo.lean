import SubscriptionClient.Proofs.Response.Evidence
import SubscriptionClient.Proofs.Response.Precedence

/-!
# Answers with customer info

An answer with customer info is read twice, as customer info and as an envelope. The status, the
reading and the attribute errors of the envelope decide together whether it is a result, a refusal
or of no use, and every refusal tells how far the request got. None of it holds when status and body
cannot be written, which they are before anything is read.
-/

namespace SubscriptionClient

/-! ## Reading customer info -/

namespace CustomerInfo

variable {body : Value} {info : CustomerInfo}

theorem exists_record (h : decode body = .ok info) :
    ∃ record, Body.customerInfo.decode body = .ok record ∧ info = ofRecord body.members record := by
  rw [decode] at h
  cases hrecord : Body.customerInfo.decode body with
  | error issues =>
    rw [hrecord] at h
    cases h
  | ok record =>
    rw [hrecord] at h
    cases h
    exact ⟨record, rfl, rfl⟩

theorem decode_of_record {record : Body.customerInfo.Denotes}
    (h : Body.customerInfo.decode body = .ok record) :
    decode body = .ok (ofRecord body.members record) := by
  rw [decode, h]
  rfl

theorem exists_record_iff :
    (∃ record, Body.customerInfo.decode body = .ok record) ↔ ∃ info, decode body = .ok info := by
  constructor
  · rintro ⟨record, hrecord⟩
    exact ⟨_, decode_of_record hrecord⟩
  · rintro ⟨info, hinfo⟩
    obtain ⟨record, hrecord, -⟩ := exists_record hinfo
    exact ⟨record, hrecord⟩

theorem exists_mapping (h : decode body = .ok info) : ∃ es, body = .map es := by
  cases body with
  | map es => exact ⟨es, rfl⟩
  | null | bool | int | float | text | bytes | decimal | dateTime | list => cases h

/-- The members that customer info is read from. -/
def names : List String := ["request_date", "request_date_ms", "subscriber"]

/-- Members that customer info is not read from only show in the raw body. -/
theorem decode_without {others : List String} (hothers : ∀ name ∈ names, name ∉ others)
    (h : decode body = .ok info) : decode (body.without others) =
      .ok { info with raw := (body.without others).members } := by
  obtain ⟨es, rfl⟩ := exists_mapping h
  obtain ⟨record, hrecord, rfl⟩ := exists_record h
  have hsame : Body.customerInfo.decode ((Value.map es).without others) =
      Body.customerInfo.decode (.map es) := by
    refine Schema.decode_ofFields_congr fun f hf => ?_
    have hname : f.1 ∈ names := by
      revert f
      decide
    exact congrArg _ (Value.member?_without_of_notMem (hothers f.1 hname) (.map es))
  exact decode_of_record (hsame.trans hrecord)

end CustomerInfo

namespace Response

variable {body : Value} {n : Int} {a : Attempt CustomerInfo}

/-! ## Decisions -/

/-- What the refusal of a request tells of how far the request got. -/
structure IsInformed (e : ClientError) (r : BackendRefusal) (n : Int) (body : Value) : Prop where
  finishable : e.detail? ClientError.finishableKey = some (.bool (decide (n < 500)))
  synced : e.detail? ClientError.successfullySyncedKey =
    some (.bool (decide ¬(500 ≤ n ∨ n = 404)))
  attributeErrors : e.detail? ClientError.attributeErrorsKey =
    (Envelope.ofBody body).resolvedErrors.map AttributeError.listToValue
  customerInfo_iff : (∃ info, r.customerInfo = some info) ↔ n < 300
  /-- The customer info is what the body without its attribute errors is answered with. -/
  customerInfo : ∀ info, r.customerInfo = some info → ∃ info',
    customerInfo ⟨.int n, body.without Envelope.errorNames, none⟩ =
      .ok info' ∧ info' = { info with raw := info'.raw }

/-- How an answer with customer info is decided. -/
structure IsDecidedBy (a : Attempt CustomerInfo) (n : Int) (body : Value) : Prop where
  result_iff : (∃ info, a = .ok info) ↔ n < 300 ∧
    (∃ record, Body.customerInfo.decode body = .ok record) ∧
      (Envelope.ofBody body).resolvedErrors.getD [] = []
  refused_iff : (∃ r, a.FailsWith (.backend r)) ↔ 300 ≤ n ∨ n < 300 ∧
    (∃ record, Body.customerInfo.decode body = .ok record) ∧
      (Envelope.ofBody body).resolvedErrors.getD [] ≠ []
  unexpected : (¬∃ info, a = .ok info) → (¬∃ r, a.FailsWith (.backend r)) →
    ∃ answer extra issues, a.FailsWith (.unexpected answer extra issues)
  malformed_iff : ∀ answer extra issues, a.FailsWith (.unexpected answer extra issues) →
    (answer = .customerInfoMalformed ↔ body = .null)
  informed : ∀ e r, a = .error (.client e) → e.kind = .backend r → IsInformed e r n body

theorem detail?_infoRefusal (n : Int) (body : Value) (info : Option CustomerInfo) :
    (infoRefusal n body info).detail? ClientError.finishableKey = some (.bool (decide (n < 500))) ∧
      (infoRefusal n body info).detail? ClientError.successfullySyncedKey =
        some (.bool (decide ¬(500 ≤ n ∨ n = 404))) ∧
      (infoRefusal n body info).detail? ClientError.attributeErrorsKey =
        (Envelope.ofBody body).resolvedErrors.map AttributeError.listToValue := by
  rw [infoRefusal]
  cases (Envelope.ofBody body).resolvedErrors with
  | none => exact ⟨rfl, rfl, rfl⟩
  | some errors => exact ⟨rfl, rfl, rfl⟩

/-- Attribute errors are all that stands between a body and its result. -/
theorem customerInfo_without_errors {info : CustomerInfo} (h : body.IsJson) (hn : n < 300)
    (ht : TellsInfo n body) (hdecode : CustomerInfo.decode body = .ok info) : ∃ info',
      customerInfo ⟨.int n, body.without Envelope.errorNames, none⟩ =
        .ok info' ∧ info' = { info with raw := info'.raw } := by
  have hothers : ∀ name ∈ CustomerInfo.names, name ∉ Envelope.errorNames := by decide
  have hbare := CustomerInfo.decode_without hothers hdecode
  have hnone := Envelope.resolvedErrors_without h
  rw [TellsInfo, if_pos hn] at ht
  have htold : TellsInfo n (body.without Envelope.errorNames) := by
    rw [TellsInfo, if_pos hn]
    exact ⟨ht.1, Value.isWritable_without ht.2 Envelope.errorNames⟩
  have hout := outcome_customerInfo (h.without Envelope.errorNames) htold
  generalize customerInfo ⟨.int n, body.without Envelope.errorNames, none⟩ = a at hout ⊢
  cases hout with
  | refused hfails => omega
  | malformed _ hnull =>
    rw [hnull] at hbare
    cases hbare
  | unreadable _ _ herror => cases herror.symm.trans hbare
  | refusedInPart _ _ herrors =>
    rw [hnone] at herrors
    exact (herrors rfl).elim
  | result _ hinfo _ =>
    cases hinfo.symm.trans hbare
    exact ⟨_, rfl, rfl⟩

theorem isDecidedBy_infoRefusal {info? : Option CustomerInfo}
    (hrefused : 300 ≤ n ∨ n < 300 ∧ (∃ record, Body.customerInfo.decode body = .ok record) ∧
      (Envelope.ofBody body).resolvedErrors.getD [] ≠ [])
    (hinfo : (∃ info, info? = some info) ↔ n < 300)
    (hbare : ∀ info, info? = some info → ∃ info',
      customerInfo ⟨.int n, body.without Envelope.errorNames, none⟩ = .ok info' ∧
        info' = { info with raw := info'.raw }) :
    IsDecidedBy (.error (.client (infoRefusal n body info?))) n body where
  result_iff := by
    refine iff_of_false (by simp) ?_
    rintro ⟨hn, hdecode, hclean⟩
    rcases hrefused with hfails | ⟨-, -, herrors⟩
    · omega
    · exact herrors hclean
  refused_iff := iff_of_true ⟨_, _, rfl⟩ hrefused
  unexpected _ hno := (hno ⟨_, _, rfl⟩).elim
  malformed_iff := by simp [infoRefusal]
  informed := by
    rintro e r he hr
    cases he
    cases hr
    obtain ⟨hfinishable, hsynced, herrors⟩ := detail?_infoRefusal n body info?
    exact ⟨hfinishable, hsynced, herrors, hinfo, hbare⟩

theorem isDecidedBy_unexpected {answer : UnexpectedAnswer} (hn : n < 300)
    (hno : ¬∃ record, Body.customerInfo.decode body = .ok record)
    (hanswer : answer = .customerInfoMalformed ↔ body = .null) (extra : Option Text)
    (issues : Option (List Issue)) :
    IsDecidedBy (.error (.client (.unexpected answer extra issues))) n body where
  result_iff := by simp [hno]
  refused_iff := by simp [ClientError.unexpected, hno, hn]
  unexpected _ _ := ⟨answer, _, issues, _, rfl⟩
  malformed_iff := by
    rintro answer' extra' issues' ⟨context, h⟩
    cases h
    exact hanswer
  informed := by
    rintro e r he hr
    cases he
    cases hr

theorem isDecidedBy_ok (hn : n < 300)
    (hdecode : ∃ record, Body.customerInfo.decode body = .ok record)
    (hclean : (Envelope.ofBody body).resolvedErrors.getD [] = []) (info : CustomerInfo) :
    IsDecidedBy (.ok info) n body where
  result_iff := iff_of_true ⟨info, rfl⟩ ⟨hn, hdecode, hclean⟩
  refused_iff := by simp [hn, hclean]
  unexpected hno _ := (hno ⟨info, rfl⟩).elim
  malformed_iff := by simp
  informed := by
    intro e r he
    cases he

theorem Outcome.isDecidedBy (hout : Outcome n body a) (h : body.IsJson) (ht : TellsInfo n body) :
    IsDecidedBy a n body := by
  cases hout with
  | refused hn =>
    have hinfo : (∃ info, (none : Option CustomerInfo) = some info) ↔ n < 300 :=
      iff_of_false nofun (Int.not_lt.mpr hn)
    exact isDecidedBy_infoRefusal (.inl hn) hinfo nofun
  | malformed hn hnull extra =>
    have hno : ¬∃ info, CustomerInfo.decode body = .ok info := by
      rw [hnull]
      nofun
    rw [← CustomerInfo.exists_record_iff] at hno
    exact isDecidedBy_unexpected hn hno (iff_of_true rfl hnull) _ _
  | unreadable hn hnull hdecode extra =>
    have hno : ¬∃ info, CustomerInfo.decode body = .ok info := by
      rw [hdecode]
      nofun
    rw [← CustomerInfo.exists_record_iff] at hno
    exact isDecidedBy_unexpected hn hno (iff_of_false (by decide) hnull) _ _
  | refusedInPart hn hdecode herrors =>
    have hrecord := CustomerInfo.exists_record_iff.mpr ⟨_, hdecode⟩
    refine isDecidedBy_infoRefusal (.inr ⟨hn, hrecord, herrors⟩) (iff_of_true ⟨_, rfl⟩ hn) ?_
    rintro _ ⟨⟩
    exact customerInfo_without_errors h hn ht hdecode
  | result hn hdecode hclean =>
    exact isDecidedBy_ok hn (CustomerInfo.exists_record_iff.mpr ⟨_, hdecode⟩) hclean _

/-- Status, reading and attribute errors decide on every answer that can be told, and no refusal
hides how far the request got. -/
theorem result_or_informed_refusal (n : Int) (h : body.IsJson) :
    Policy.customerInfo.Ensures n body none (IsDecidedBy · n body)
      (customerInfo ⟨.int n, body, none⟩) :=
  ⟨fun ht => (outcome_customerInfo h ht).isDecidedBy h ht, fun ht => customerInfo_eq_unwritten h ht⟩

/-- Customer info that comes with a refused attribute. -/
def halfAccepted : Value :=
  .record [("attribute_errors", mailErrors),
    ("request_date", .text "2020-01-01T00:00:00Z".toText),
    ("subscriber", .record [("first_seen", .int 0), ("original_app_user_id", .text "me".toText)])]

theorem isJson_subscriber :
    (Value.record [("first_seen", .int 0), ("original_app_user_id", .text "me".toText)]).IsJson :=
  Value.isJson_record (by decide) (by simpa using ⟨.int 0, .text _⟩)

theorem isJson_halfAccepted : halfAccepted.IsJson :=
  Value.isJson_record (by decide)
    (by simpa using ⟨isJson_mailErrors, .text _, isJson_subscriber⟩)

theorem half_accepted_is_finishable :
    halfAccepted.IsJson ∧ ∃ e r info,
      customerInfo ⟨.int 200, halfAccepted, none⟩ = .error (.client e) ∧ e.kind = .backend r ∧
      e.detail? ClientError.finishableKey = some (.bool true) ∧
      e.detail? ClientError.successfullySyncedKey = some (.bool true) ∧
      r.customerInfo = some info := by
  have hdecided := (result_or_informed_refusal 200 isJson_halfAccepted).told
    (Policy.told_of_isWritable _ (by decide) (by decide) (by simp))
  have hrecord : ∃ record, Body.customerInfo.decode halfAccepted = .ok record := ⟨_, rfl⟩
  have herrors : (Envelope.ofBody halfAccepted).resolvedErrors.getD [] ≠ [] := nofun
  obtain ⟨r, context, hr⟩ := hdecided.refused_iff.mpr (.inr ⟨by decide, hrecord, herrors⟩)
  have hinformed := hdecided.informed _ r hr rfl
  obtain ⟨info, hinfo⟩ := hinformed.customerInfo_iff.mpr (by decide)
  exact ⟨isJson_halfAccepted, _, r, info, hr, rfl, hinformed.finishable, hinformed.synced, hinfo⟩

/-- Customer info beside an integer of too many digits. -/
def overlong : Value :=
  .record [("request_date", .text "2020-01-01T00:00:00Z".toText),
    ("subscriber", .record [("first_seen", .int 0), ("original_app_user_id", .text "me".toText)]),
    ("x", .int Numeral.huge)]

theorem isJson_overlong : overlong.IsJson :=
  Value.isJson_record (by decide) (by simpa using ⟨.text _, isJson_subscriber, .int _⟩)

theorem isWritable_overlong : overlong.isWritable = false := by
  have hx : Value.member? "x" overlong.members = some (.int Numeral.huge) := rfl
  exact Value.isWritable_of_huge hx

/-- Customer info that can be read is not told beside an integer of too many digits. -/
theorem overlong_info_is_lost :
    overlong.IsJson ∧ (∃ record, Body.customerInfo.decode overlong = .ok record) ∧
      (Envelope.ofBody overlong).resolvedErrors.getD [] = [] ∧
      customerInfo ⟨.int 200, overlong, none⟩ = .unwritten := by
  refine ⟨isJson_overlong, ⟨_, rfl⟩, rfl, customerInfo_eq_unwritten isJson_overlong fun ht => ?_⟩
  rw [TellsInfo, if_pos (by decide), isWritable_overlong] at ht
  cases ht.2

end Response

end SubscriptionClient
