import SubscriptionClient.Proofs.Response.Eligibilities
import SubscriptionClient.Proofs.Response.Verdicts

/-!
# The order of classification

Whether an answer came at all is asked first, then its status, and only then its body. Whatever is
found, the outcome is the result of the request or a classified error, unless an integer of too many
digits would have to be written to tell it. For the eligibility of products it is always a result.
-/

namespace SubscriptionClient

namespace Attempt

variable {α : Type}

/-- Whether an attempt failed with a classified error of this kind. -/
def FailsWith (a : Attempt α) (kind : ClientErrorKind) : Prop :=
  ∃ context, a = .error (.client ⟨kind, context⟩)

@[simp] theorem not_failsWith_ok (x : α) (kind : ClientErrorKind) :
    ¬FailsWith (.ok x) kind := by
  rintro ⟨context, h⟩
  cases h

@[simp] theorem failsWith_error_iff (kind kind' : ClientErrorKind) (context : Context) :
    FailsWith (.error (.client ⟨kind, context⟩) : Attempt α) kind' ↔ kind = kind' := by
  constructor
  · rintro ⟨context', h⟩
    cases h
    rfl
  · rintro rfl
    exact ⟨context, rfl⟩

/-- Whether an attempt succeeded or failed in one of the ways that answers may. -/
def IsClassified (a : Attempt α) : Prop :=
  (∃ x, a = .ok x) ∨ (∃ f, a.FailsWith (.network f)) ∨ (∃ r, a.FailsWith (.backend r)) ∨
    ∃ answer extra issues, a.FailsWith (.unexpected answer extra issues)

theorem not_failsWith_unwritten (kind : ClientErrorKind) :
    ¬(unwritten : Attempt α).FailsWith kind := by
  rintro ⟨context, h⟩
  cases h

theorem not_isClassified_unwritten : ¬(unwritten : Attempt α).IsClassified := by
  rintro (⟨x, h⟩ | ⟨f, h⟩ | ⟨r, h⟩ | ⟨answer, extra, issues, h⟩)
  · cases h
  all_goals exact not_failsWith_unwritten _ h

end Attempt

namespace Response

variable {α : Type} {p : Policy} {n : Int} {body : Value} {failure : Option Failure}
  {a : Attempt α}

theorem Verdict.isClassified (h : Verdict p n body failure a) : a.IsClassified := by
  cases h with
  | lost f => exact .inr (.inl ⟨f, [], rfl⟩)
  | refused hn hb context => exact .inr (.inr (.inl ⟨_, context, rfl⟩))
  | silent hn hb answer extra => exact .inr (.inr (.inr ⟨answer, _, none, [], rfl⟩))
  | refusedInPart hn hb context info => exact .inr (.inr (.inl ⟨_, context, rfl⟩))
  | unusable hn hb hread answer extra issues =>
    exact .inr (.inr (.inr ⟨answer, _, issues, [], rfl⟩))
  | result hn hb x => exact .inl ⟨x, rfl⟩

/-! ## Precedence -/

/-- How failure, status and body decide the outcome of an answer, in this order. -/
structure Precedence (p : Policy) (n : Int) (body : Value) (failure : Option Failure)
    (a : Attempt α) : Prop where
  /-- A failure decides alone, and is passed on. -/
  network_iff : ∀ f, a.FailsWith (.network f) ↔ failure = some f
  /-- The status decides next: a failed request is refused with what its body says. -/
  refused : failure = none → p.fails n → ¬p.silent body →
    a.FailsWith (.backend (refusal body (.int n) none))
  silent : failure = none → p.fails n → p.silent body →
    ∃ answer extra issues, a.FailsWith (.unexpected answer extra issues)
  /-- A request of success status is refused when its body holds a refusal, and then with that. -/
  refusedInPart : failure = none → ¬p.fails n → (∃ source, p.refuses body source) →
    ∃ source info, p.refuses body source ∧ a.FailsWith (.backend (refusal source (.int n) info))
  onlyRefused : failure = none → ¬p.fails n → (∃ r, a.FailsWith (.backend r)) →
    ∃ source, p.refuses body source
  /-- A body that is not read cannot be of no use. -/
  unread : failure = none → ¬p.fails n → (∀ source, ¬p.refuses body source) → ¬p.readsBody →
    ∃ x, a = .ok x
  unexpected : (∃ answer extra issues, a.FailsWith (.unexpected answer extra issues)) →
    failure = none ∧ (p.fails n → p.silent body)
  result : (∃ x, a = .ok x) → failure = none ∧ ¬p.fails n

theorem Verdict.precedence (h : Verdict p n body failure a) : Precedence p n body failure a := by
  cases h with
  | lost f =>
    constructor <;> simp [ClientError.network]
  | refused hn hb context =>
    constructor <;> simp [hn, hb]
  | silent hn hb answer extra =>
    constructor <;> simp [ClientError.unexpected, hn, hb]
  | @refusedInPart hn source hb context info =>
    exact
      { network_iff := by simp
        refused := fun _ hfails => (hn hfails).elim
        silent := fun _ hfails => (hn hfails).elim
        refusedInPart := fun _ _ _ => ⟨source, info, hb, context, rfl⟩
        onlyRefused := fun _ _ _ => ⟨source, hb⟩
        unread := fun _ _ hno => (hno source hb).elim
        unexpected := by simp
        result := by simp }
  | unusable hn hb hread answer extra issues =>
    constructor <;> simp [ClientError.unexpected, hn, hb, hread]
  | result hn hb x =>
    constructor <;> simp [hn, hb]

/-- The order holds of every answer of which what there is to tell can be written. -/
theorem failure_then_status_then_body (n : Int) (failure : Option Failure) (h : body.IsJson) :
    Policy.customerInfo.Ensures n body failure (Precedence .customerInfo n body failure)
        (customerInfo ⟨.int n, body, failure⟩) ∧
      Policy.logIn.Ensures n body failure (Precedence .logIn n body failure)
        (logIn ⟨.int n, body, failure⟩) ∧
      Policy.offerings.Ensures n body failure (Precedence .offerings n body failure)
        (offerings ⟨.int n, body, failure⟩) ∧
      Policy.offerSigning.Ensures n body failure (Precedence .offerSigning n body failure)
        (offerSigning ⟨.int n, body, failure⟩) ∧
      Policy.post.Ensures n body failure (Precedence .post n body failure)
        (subscriberAttributes ⟨.int n, body, failure⟩) ∧
      Policy.post.Ensures n body failure (Precedence .post n body failure)
        (post ⟨.int n, body, failure⟩) :=
  ⟨(governs_customerInfo h).mono Verdict.precedence, (governs_logIn h).mono Verdict.precedence,
    (governs_offerings h).mono Verdict.precedence, (governs_offerSigning h).mono Verdict.precedence,
    (governs_subscriberAttributes h).mono Verdict.precedence,
    (governs_post h).mono Verdict.precedence⟩

/-- An offer that was not signed. -/
def deniedOffer : List (Value × Value) :=
  [(.text "signature_error".toText, .map [(.text "code".toText, .int 7234)])]

def denial : Value := .map [(.text "offers".toText, .list [.map deniedOffer])]

theorem isJson_singleton (name : String) {v : Value} (h : v.IsJson) :
    (Value.map [(.text name.toText, v)]).IsJson := by
  show (Value.record [(name, v)]).IsJson
  refine Value.isJson_record (List.nodup_singleton _) ?_
  simpa using h

theorem isJson_denial : denial.IsJson := by
  have hoffer := isJson_singleton "signature_error" (isJson_singleton "code" (.int 7234))
  refine isJson_singleton _ (.list fun v hv => ?_)
  rw [List.mem_singleton.mp hv]
  exact hoffer

theorem denied_offer_is_refused :
    denial.IsJson ∧ ∃ info, (offerSigning ⟨.int 200, denial, none⟩).FailsWith
      (.backend ⟨.int 7234, .null, .int 200, info⟩) := by
  refine ⟨isJson_denial, ?_⟩
  obtain ⟨-, -, -, h, -⟩ := failure_then_status_then_body 200 none isJson_denial
  have hok : ¬Policy.offerSigning.fails 200 := Int.not_le.mpr (by decide)
  have hoffers : offerList? denial = some [deniedOffer] := rfl
  have hrefuses := (offerSigning_refuses_iff hoffers).mpr ⟨_, rfl, rfl⟩
  have htold : Policy.offerSigning.Told 200 denial none :=
    Policy.told_of_isWritable _ (by decide) (by decide) (by simp)
  obtain ⟨source, info, hsource, hfails⟩ := (h.told htold).refusedInPart rfl hok ⟨_, hrefuses⟩
  obtain ⟨error, herror, rfl⟩ := (offerSigning_refuses_iff hoffers).mp hsource
  cases herror
  exact ⟨info, hfails⟩

/-- A body whose code has too many digits. -/
def hugeCode : Value := .map [(.text "code".toText, .int Numeral.huge)]

/-- A failed request is not refused when the refusal would have to tell too many digits. -/
theorem huge_code_is_not_refused :
    hugeCode.IsJson ∧ (Envelope.ofBody hugeCode).code = some Numeral.huge ∧
      (post ⟨.int 400, hugeCode, none⟩ = .unwritten) ∧
      ∀ r, ¬(post ⟨.int 400, hugeCode, none⟩).FailsWith (.backend r) := by
  have hjson : hugeCode.IsJson := isJson_singleton "code" (.int _)
  have hcode : (Envelope.ofBody hugeCode).code = some Numeral.huge := rfl
  have hpost : post ⟨.int 400, hugeCode, none⟩ = .unwritten := by
    refine (governs_post hjson).unwritten ?_
    rintro (hn | htell)
    · exact absurd hn (by decide)
    · have hw := htell.code _ hcode
      rw [Numeral.isWritable_huge] at hw
      cases hw
  refine ⟨hjson, hcode, hpost, fun r => ?_⟩
  rw [hpost]
  exact Attempt.not_failsWith_unwritten _

/-! ## Classified outcomes -/

theorem fails_only_classified (n : Int) (failure : Option Failure) (products : List Text)
    (h : body.IsJson) :
    Policy.customerInfo.Ensures n body failure Attempt.IsClassified
        (customerInfo ⟨.int n, body, failure⟩) ∧
      Policy.logIn.Ensures n body failure Attempt.IsClassified (logIn ⟨.int n, body, failure⟩) ∧
      Policy.offerings.Ensures n body failure Attempt.IsClassified
        (offerings ⟨.int n, body, failure⟩) ∧
      Policy.offerSigning.Ensures n body failure Attempt.IsClassified
        (offerSigning ⟨.int n, body, failure⟩) ∧
      Policy.post.Ensures n body failure Attempt.IsClassified
        (subscriberAttributes ⟨.int n, body, failure⟩) ∧
      Policy.post.Ensures n body failure Attempt.IsClassified (post ⟨.int n, body, failure⟩) ∧
      ∃ verdict, IsVerdictOf ⟨.int n, body, failure⟩ verdict ∧
        introEligibility (products.map .text) ⟨.int n, body, failure⟩ =
          .ok (Eligibility.table verdict products) :=
  ⟨(governs_customerInfo h).mono Verdict.isClassified, (governs_logIn h).mono Verdict.isClassified,
    (governs_offerings h).mono Verdict.isClassified,
    (governs_offerSigning h).mono Verdict.isClassified,
    (governs_subscriberAttributes h).mono Verdict.isClassified,
    (governs_post h).mono Verdict.isClassified, exists_table_of_introEligibility rfl products⟩

theorem nonsense_is_classified :
    (Value.text "nonsense".toText).IsJson ∧
      (customerInfo ⟨.int 200, .text "nonsense".toText, none⟩).IsClassified ∧
      introEligibility (["pro".toText].map .text) ⟨.int 200, .text "nonsense".toText, none⟩ =
        .ok [(.text "pro".toText, .unknown)] := by
  obtain ⟨hinfo, -, -, -, -, -, verdict, hverdict, heligibility⟩ :=
    fails_only_classified 200 none ["pro".toText] (.text "nonsense".toText)
  have htold : Policy.customerInfo.Told 200 (.text "nonsense".toText) none :=
    Policy.told_of_isWritable _ (by decide) (by decide) (by simp)
  have hunstated (b : Bool) :
      ¬States ⟨.int 200, .text "nonsense".toText, none⟩ "pro".toText b := by
    rintro ⟨-, -, members, hbody, -⟩
    cases hbody
  obtain ⟨heligible, hineligible⟩ := hverdict "pro".toText
  have htable : Eligibility.table verdict ["pro".toText] =
      [(.text "pro".toText, verdict "pro".toText)] := rfl
  refine ⟨.text _, hinfo.told htold, heligibility.trans ?_⟩
  rw [htable]
  cases hpro : verdict "pro".toText with
  | unknown => rfl
  | eligible => exact (hunstated true (heligible.mp hpro)).elim
  | ineligible => exact (hunstated false (hineligible.mp hpro)).elim

/-- A body that only has to be described is not classified when it has too many digits. -/
theorem huge_body_is_not_classified :
    (Value.int Numeral.huge).IsJson ∧
      offerSigning ⟨.int 200, .int Numeral.huge, none⟩ = .unwritten ∧
      ¬(offerSigning ⟨.int 200, .int Numeral.huge, none⟩).IsClassified := by
  have hjson : (Value.int Numeral.huge).IsJson := .int _
  have hoffer : offerSigning ⟨.int 200, .int Numeral.huge, none⟩ = .unwritten := by
    refine (governs_offerSigning hjson).unwritten ?_
    rw [told_of_unlisted (by decide) (by rintro _ _ ⟨⟩), Value.isWritable,
      Numeral.isWritable_huge]
    exact Bool.false_ne_true
  refine ⟨hjson, hoffer, ?_⟩
  rw [hoffer]
  exact Attempt.not_isClassified_unwritten

end Response

end SubscriptionClient
