import SubscriptionClient.Proofs.Response.Outcomes
import SubscriptionClient.Response.LogIn
import SubscriptionClient.Response.OfferSigning
import SubscriptionClient.Response.Offerings
import SubscriptionClient.Response.Post

/-!
# Verdicts on answers

Whatever was asked for, an answer of integer status comes to one of six ends: the request did not
get through, it was refused, it failed without a reason, it was refused in part, its answer cannot
be used, or it has a result. The kinds of requests differ in the statuses that count as failed, in
where a body may hold a refusal, and in what the outcome has to tell. When that cannot be written
because an integer has too many digits, the answer comes to none of these ends.
-/

namespace SubscriptionClient

namespace Response

variable {α : Type} {body : Value} {n : Int} {failure : Option Failure}

/-! ## Verdicts -/

/-- What tells the ways of reading an answer apart. -/
structure Policy where
  /-- The statuses of failed requests. -/
  fails : Int → Prop
  /-- The bodies that give no reason for a failure. -/
  silent : Value → Prop
  /-- Whether a body of success status, the first value, is a refusal all the same, which the second
  value describes. -/
  refuses : Value → Value → Prop
  /-- Whether a body of success status is read at all. -/
  readsBody : Prop
  /-- Whether what there is to tell of a status and a body can be written. -/
  tells : Int → Value → Prop
  tells_of_isWritable : ∀ n body, Numeral.isWritable n = true → body.isWritable = true →
    tells n body

/-- The ends that an answer may come to. -/
inductive Verdict {α : Type} (p : Policy) (n : Int) (body : Value) :
    Option Failure → Attempt α → Prop where
  | lost (f : Failure) : Verdict p n body (some f) (.error (.client (.network f)))
  | refused (hn : p.fails n) (hb : ¬p.silent body) (context : Context) :
    Verdict p n body none (.error (.client ⟨.backend (refusal body (.int n) none), context⟩))
  | silent (hn : p.fails n) (hb : p.silent body) (answer : UnexpectedAnswer)
    (extra : Option Text) : Verdict p n body none (.error (.client (.unexpected answer extra none)))
  | refusedInPart (hn : ¬p.fails n) {source : Value} (hb : p.refuses body source)
    (context : Context) (info : Option CustomerInfo) :
    Verdict p n body none (.error (.client ⟨.backend (refusal source (.int n) info), context⟩))
  | unusable (hn : ¬p.fails n) (hb : ∀ source, ¬p.refuses body source) (hread : p.readsBody)
    (answer : UnexpectedAnswer) (extra : Option Text) (issues : Option (List Issue)) :
    Verdict p n body none (.error (.client (.unexpected answer extra issues)))
  | result (hn : ¬p.fails n) (hb : ∀ source, ¬p.refuses body source) (a : α) :
    Verdict p n body none (.ok a)

/-- Whether what there is to tell of the first offer can be written: what its error says, or what
stands in the place of a signature. -/
structure TellsOffer (offer : List (Value × Value)) : Prop where
  denied : ∀ error, Value.member? "signature_error" offer = some (.map error) →
    IsTellable (.map error)
  unsigned : (∀ error, Value.member? "signature_error" offer ≠ some (.map error)) →
    (∀ data, Value.member? "signature_data" offer ≠ some (.map data)) →
    ∀ data, Value.member? "signature_data" offer = some data → data.isWritable = true

theorem tellsOffer_of_isWritable {offer : List (Value × Value)}
    (h : (Value.map offer).isWritable = true) : TellsOffer offer :=
  ⟨fun _ herror => isTellable_of_isWritable (Value.isWritable_of_member? h herror),
    fun _ _ _ hdata => Value.isWritable_of_member? h hdata⟩

namespace Policy

/-- Customer info may come with attributes that were refused. -/
def customerInfo : Policy where
  fails n := 300 ≤ n
  silent _ := False
  refuses body source := source = body ∧ (∃ info, CustomerInfo.decode body = .ok info) ∧
    ∃ e es, (Envelope.ofBody body).resolvedErrors = some (e :: es)
  readsBody := True
  tells := TellsInfo
  tells_of_isWritable _ _ hn hw := by
    rw [TellsInfo]
    split_ifs
    · exact ⟨hn, hw⟩
    · exact isTellable_of_isWritable hw

/-- A body is only told of when it cannot be read. -/
def logIn : Policy where
  fails n := 300 ≤ n
  silent _ := False
  refuses _ _ := False
  readsBody := True
  tells n body :=
    if n < 300 then (∃ info, CustomerInfo.decode body = .ok info) ∨ body.isWritable = true
    else IsTellable body
  tells_of_isWritable _ _ _ hw := by
    split_ifs
    · exact .inr hw
    · exact isTellable_of_isWritable hw

/-- Without a body nobody tells why there are no offerings. -/
def offerings : Policy where
  fails n := 300 ≤ n
  silent body := body = .null
  refuses _ _ := False
  readsBody := True
  tells n body :=
    if n < 300 then (∃ o, Offerings.decode body = .ok o) ∨ body.isWritable = true
    else body.isWritable = true ∧ (body = .null → Numeral.isWritable n = true)
  tells_of_isWritable _ _ hn hw := by
    split_ifs
    · exact .inr hw
    · exact ⟨hw, fun _ => hn⟩

/-- The first offer may hold an error in place of a signature. -/
def offerSigning : Policy where
  fails n := 300 ≤ n
  silent _ := False
  refuses body source := ∃ offer offers error,
    Value.member? "offers" body.members = some (.list ((offer :: offers).map .map)) ∧
      Value.member? "signature_error" offer = some (.map error) ∧ source = .map error
  readsBody := True
  tells n body :=
    if n < 300 then
      (∀ offer offers, Value.member? "offers" body.members =
        some (.list ((offer :: offers).map .map)) → TellsOffer offer) ∧
      ((∀ offer offers, Value.member? "offers" body.members ≠
        some (.list ((offer :: offers).map .map))) → body.isWritable = true)
    else IsTellable body
  tells_of_isWritable _ body _ hw := by
    split_ifs
    · refine ⟨fun offer offers hoffers => ?_, fun _ => hw⟩
      have hlist := Value.isWritable_list_iff.mp (Value.isWritable_of_member? hw hoffers)
      exact tellsOffer_of_isWritable (hlist _ (List.mem_map_of_mem List.mem_cons_self))
    · exact isTellable_of_isWritable hw

/-- A redirect does not fail a post. -/
def post : Policy where
  fails n := 300 < n
  silent _ := False
  refuses _ _ := False
  readsBody := False
  tells n body := n ≤ 300 ∨ IsTellable body
  tells_of_isWritable _ _ _ hw := .inr (isTellable_of_isWritable hw)

/-- Whether what there is to tell of an answer can be written. A failure is told alone. -/
def Told (p : Policy) (n : Int) (body : Value) : Option Failure → Prop
  | some f => ∃ t, f.message? = some t
  | none => p.tells n body

/-- Integers that can be written leave nothing untold. -/
theorem told_of_isWritable (p : Policy) (hn : Numeral.isWritable n = true)
    (hw : body.isWritable = true) (hf : ∀ f, failure = some f → ∃ t, f.message? = some t) :
    p.Told n body failure := by
  cases failure with
  | some f => exact hf f rfl
  | none => exact p.tells_of_isWritable n body hn hw

end Policy

/-- Whether an outcome is as it should be when what there is to tell can be written, and that it
cannot be written otherwise. -/
structure Policy.Ensures (p : Policy) (n : Int) (body : Value) (failure : Option Failure)
    (q : Attempt α → Prop) (a : Attempt α) : Prop where
  told : p.Told n body failure → q a
  unwritten : ¬p.Told n body failure → a = .unwritten

theorem Policy.Ensures.mono {p : Policy} {q q' : Attempt α → Prop} {a : Attempt α}
    (h : p.Ensures n body failure q a) (hq : q a → q' a) : p.Ensures n body failure q' a :=
  ⟨fun ht => hq (h.told ht), h.unwritten⟩

/-- Whether an outcome is one of the ends that an answer may come to. -/
abbrev Policy.Governs (p : Policy) (n : Int) (body : Value) (failure : Option Failure)
    (a : Attempt α) : Prop :=
  p.Ensures n body failure (Verdict p n body failure) a

namespace Policy.Governs

variable {p : Policy} {a : Attempt α}

theorem of_verdict (ht : p.Told n body failure) (hv : Verdict p n body failure a) :
    p.Governs n body failure a :=
  ⟨fun _ => hv, fun hno => (hno ht).elim⟩

theorem of_unwritten (ht : ¬p.Told n body failure) :
    p.Governs n body failure (.unwritten : Attempt α) :=
  ⟨fun hyes => (ht hyes).elim, fun _ => rfl⟩

theorem exists_message?_network_iff (f : Failure) :
    (∃ t, ClientError.message? (.network f) = some t) ↔ ∃ t, f.message? = some t := by
  show (∃ t, f.message?.map ("Network error: ".toText ++ ·) = some t) ↔ _
  cases f.message? <;> simp

theorem lost (p : Policy) (n : Int) (body : Value) (f : Failure) :
    p.Governs n body (some f) (.error (.ofClientError (.network f)) : Attempt α) := by
  have hmessage := exists_message?_network_iff f
  refine ⟨fun ht => ?_, fun ht => ?_⟩
  · rw [Fault.ofClientError_eq (hmessage.mpr ht)]
    exact .lost f
  · exact congrArg Except.error (Fault.ofClientError_eq_misuse (mt hmessage.mp ht))

/-- Something is written first, and the outcome tells it. -/
theorem of_bind {β : Type} {q : Prop} {c : Attempt β} {next : β → Attempt α}
    (hc : SucceedsIff (.misuse .tooManyDigits) q c) (ht : p.Told n body none ↔ q)
    (hnext : ∀ x, Verdict p n body none (next x)) : p.Governs n body none (c.bind next) := by
  by_cases hq : q
  · obtain ⟨x, hx⟩ := hc.ok hq
    rw [hx]
    exact of_verdict (ht.mpr hq) (hnext x)
  · rw [hc.error hq]
    exact of_unwritten (mt ht.mp hq)

theorem of_refuse (h : body.IsTextKeyed) (ht : p.Told n body none ↔ IsTellable body)
    (hn : p.fails n) (hb : ¬p.silent body) (context : Context) :
    p.Governs n body none (refuse body (.int n) context none : Attempt α) := by
  by_cases htell : IsTellable body
  · rw [refuse_eq h htell]
    exact of_verdict (ht.mpr htell) (.refused hn hb context)
  · rw [refuse_eq_unwritten h htell]
    exact of_unwritten (mt ht.mp htell)

end Policy.Governs

theorem Policy.customerInfo_refuses_iff {source : Value} :
    customerInfo.refuses body source ↔ source = body ∧
      (∃ info, CustomerInfo.decode body = .ok info) ∧
        (Envelope.ofBody body).resolvedErrors.getD [] ≠ [] := by
  have herrors : (∃ e es, (Envelope.ofBody body).resolvedErrors = some (e :: es)) ↔
      (Envelope.ofBody body).resolvedErrors.getD [] ≠ [] := by
    rcases (Envelope.ofBody body).resolvedErrors with _ | _ | ⟨e, es⟩ <;> simp
  exact and_congr_right fun _ => and_congr_right fun _ => herrors

theorem Outcome.verdict {a : Attempt CustomerInfo} (hout : Outcome n body a) :
    Verdict .customerInfo n body none a := by
  cases hout with
  | refused hn => exact .refused hn not_false _
  | malformed hn hnull extra =>
    refine .unusable (Int.not_le.mpr hn) (fun source hrefuses => ?_) trivial _ _ _
    obtain ⟨-, ⟨info, hinfo⟩, -⟩ := hrefuses
    rw [hnull] at hinfo
    cases hinfo
  | unreadable hn hnull hdecode extra =>
    refine .unusable (Int.not_le.mpr hn) (fun source hrefuses => ?_) trivial _ _ _
    obtain ⟨-, ⟨info, hinfo⟩, -⟩ := hrefuses
    cases hdecode.symm.trans hinfo
  | refusedInPart hn hdecode herrors =>
    have hrefuses := Policy.customerInfo_refuses_iff.mpr ⟨rfl, ⟨_, hdecode⟩, herrors⟩
    exact .refusedInPart (Int.not_le.mpr hn) hrefuses _ _
  | result hn hdecode hclean =>
    refine .result (Int.not_le.mpr hn) (fun source hrefuses => ?_) _
    exact (Policy.customerInfo_refuses_iff.mp hrefuses).2.2 hclean

theorem governs_customerInfo (h : body.IsJson) :
    Policy.customerInfo.Governs n body failure (customerInfo ⟨.int n, body, failure⟩) := by
  cases failure with
  | some f => exact .lost _ n body f
  | none =>
    exact ⟨fun ht => (outcome_customerInfo h ht).verdict, fun ht => customerInfo_eq_unwritten h ht⟩

theorem governs_logIn (h : body.IsJson) :
    Policy.logIn.Governs n body failure (logIn ⟨.int n, body, failure⟩) := by
  cases failure with
  | some f => exact .lost _ n body f
  | none =>
    by_cases hn : n < 300
    · have hok : ¬Policy.logIn.fails n := Int.not_le.mpr hn
      have htold : Policy.logIn.Told n body none ↔
          (∃ info, CustomerInfo.decode body = .ok info) ∨ body.isWritable = true :=
        iff_of_eq (if_pos hn)
      simp only [logIn, Status.isSuccess?_int, hn, bind, Except.bind, decide_true, ↓reduceIte]
      cases hnull : body.isNull with
      | true =>
        have hw := Value.isWritable_of_isNull hnull
        exact .of_verdict (htold.mpr (.inr hw)) (.unusable hok (fun _ => not_false) trivial _ _ _)
      | false =>
        cases hdecode : CustomerInfo.decode body with
        | ok info =>
          exact .of_verdict (htold.mpr (.inl ⟨info, hdecode⟩)) (.result hok (fun _ => not_false) _)
        | error issues =>
          exact .of_bind (succeedsIff_description? h.isTextKeyed) (by simp [htold, hdecode])
            fun _ => .unusable hok (fun _ => not_false) trivial _ _ _
    · have htold : Policy.logIn.Told n body none ↔ IsTellable body := iff_of_eq (if_neg hn)
      simp only [logIn, Status.isSuccess?_int, hn, bind, Except.bind]
      exact .of_refuse h.isTextKeyed htold (Int.not_lt.mp hn) not_false []

theorem governs_offerings (h : body.IsJson) :
    Policy.offerings.Governs n body failure (offerings ⟨.int n, body, failure⟩) := by
  have hdescribe := succeedsIff_description? h.isTextKeyed
  cases failure with
  | some f => exact .lost _ n body f
  | none =>
    by_cases hn : n < 300
    · have hok : ¬Policy.offerings.fails n := Int.not_le.mpr hn
      have htold : Policy.offerings.Told n body none ↔
          (∃ o, Offerings.decode body = .ok o) ∨ body.isWritable = true := iff_of_eq (if_pos hn)
      simp only [offerings, Status.isSuccess?_int, hn, bind, Except.bind, decide_true, ↓reduceIte]
      cases hnull : body.isNull with
      | true =>
        have hw := Value.isWritable_of_isNull hnull
        exact .of_verdict (htold.mpr (.inr hw)) (.unusable hok (fun _ => not_false) trivial _ _ _)
      | false =>
        cases hdecode : Offerings.decode body with
        | ok o =>
          exact .of_verdict (htold.mpr (.inl ⟨o, hdecode⟩)) (.result hok (fun _ => not_false) o)
        | error issues =>
          exact .of_bind hdescribe (by simp [htold, hdecode])
            fun _ => .unusable hok (fun _ => not_false) trivial _ _ _
    · have hfails : Policy.offerings.fails n := Int.not_lt.mp hn
      have htold : Policy.offerings.Told n body none ↔
          body.isWritable = true ∧ (body = .null → Numeral.isWritable n = true) :=
        iff_of_eq (if_neg hn)
      by_cases hw : body.isWritable = true
      · simp only [offerings, Status.isSuccess?_int, hn, note_eq h.isTextKeyed hw, bind,
          Except.bind]
        cases hnull : body.isNull with
        | true =>
          have hbody := Value.eq_null_of_isNull hnull
          have htold' : Policy.offerings.Told n body none ↔ Numeral.isWritable n = true :=
            htold.trans ⟨fun ht => ht.2 hbody, fun hn => ⟨hw, fun _ => hn⟩⟩
          exact .of_bind (succeedsIff_statusText? n) htold' fun _ => .silent hfails hbody _ _
        | false =>
          have hbody : body ≠ .null := by
            rintro rfl
            cases hnull
          exact .of_refuse h.isTextKeyed
            (by simp [htold, hw, hbody, isTellable_of_isWritable hw]) hfails hbody []
      · simp only [offerings, Status.isSuccess?_int, hn, (succeedsIff_note h.isTextKeyed).error hw,
          bind, Except.bind]
        exact .of_unwritten fun ht => hw (htold.mp ht).1

theorem governs_subscriberAttributes (h : body.IsJson) :
    Policy.post.Governs n body failure (subscriberAttributes ⟨.int n, body, failure⟩) := by
  cases failure with
  | some f => exact .lost _ n body f
  | none =>
    by_cases hn : n ≤ 300
    · simp only [subscriberAttributes, Status.isPostSuccess?_int, hn, bind, Except.bind]
      exact .of_verdict (.inl hn) (.result (Int.not_lt.mpr hn) (fun _ => not_false) ())
    · have htold : Policy.post.Told n body none ↔ IsTellable body := or_iff_right hn
      by_cases hd : IsDecodable body
      · simp only [subscriberAttributes, Status.isPostSuccess?_int, hn, attributeSync?_eq n h hd,
          bind, Except.bind]
        exact .of_refuse h.isTextKeyed htold (Int.not_le.mp hn) not_false _
      · simp only [subscriberAttributes, Status.isPostSuccess?_int, hn,
          attributeSync?_eq_unwritten n h hd, bind, Except.bind]
        exact .of_unwritten fun ht => hd (htold.mp ht).isDecodable

theorem governs_post (h : body.IsJson) :
    Policy.post.Governs n body failure (post ⟨.int n, body, failure⟩) := by
  cases failure with
  | some f => exact .lost _ n body f
  | none =>
    by_cases hn : n ≤ 300
    · simp only [post, Status.isPostSuccess?_int, hn, bind, Except.bind]
      exact .of_verdict (.inl hn) (.result (Int.not_lt.mpr hn) (fun _ => not_false) ())
    · have htold : Policy.post.Told n body none ↔ IsTellable body := or_iff_right hn
      simp only [post, Status.isPostSuccess?_int, hn, bind, Except.bind]
      exact .of_refuse h.isTextKeyed htold (Int.not_le.mp hn) not_false []

/-! ## Signed offers -/

section Offers

variable {offer : List (Value × Value)} {offers : List (List (Value × Value))}

theorem mapM_mapping_eq_some_iff {vs : List Value} :
    vs.mapM (fun | .map es => some es | _ => none) = some offers ↔ vs = offers.map Value.map := by
  induction vs generalizing offers with
  | nil => simp [eq_comm]
  | cons v vs ih =>
    rw [List.mapM_cons]
    cases v with
    | map es =>
      cases offers with
      | nil => simp [Option.bind_eq_some_iff]
      | cons offer offers =>
        simp only [Option.bind_eq_bind, Option.bind_some, Option.bind_eq_some_iff, ih,
          Option.pure_def, Option.some.injEq, List.cons.injEq, List.map_cons, Value.map.injEq]
        constructor
        · rintro ⟨_, rfl, rfl, rfl⟩
          exact ⟨rfl, rfl⟩
        · rintro ⟨rfl, rfl⟩
          exact ⟨offers, rfl, rfl, rfl⟩
    | null | bool | int | float | text | bytes | decimal | dateTime | list =>
      cases offers <;> simp

theorem offerList?_eq_some_iff : offerList? body = some offers ↔
    Value.member? "offers" body.members = some (.list (offers.map .map)) := by
  rw [offerList?]
  cases Value.member? "offers" body.members with
  | none => simp
  | some v =>
    cases v with
    | list vs =>
      simp only [Option.some.injEq, Value.list.injEq]
      exact mapM_mapping_eq_some_iff
    | null | bool | int | float | text | bytes | decimal | dateTime | map => simp

theorem offerSigning_refuses_iff {source : Value} (ho : offerList? body = some (offer :: offers)) :
    Policy.offerSigning.refuses body source ↔
      ∃ error, Value.member? "signature_error" offer = some (.map error) ∧ source = .map error := by
  constructor
  · rintro ⟨offer', offers', error, hoffers, herror⟩
    cases ho.symm.trans (offerList?_eq_some_iff.mpr hoffers)
    exact ⟨error, herror⟩
  · rintro ⟨error, herror⟩
    exact ⟨offer, offers, error, offerList?_eq_some_iff.mp ho, herror⟩

theorem told_of_unlisted (hn : n < 300)
    (hno : ∀ offer offers, offerList? body ≠ some (offer :: offers)) :
    Policy.offerSigning.Told n body none ↔ body.isWritable = true := by
  refine (iff_of_eq (if_pos hn)).trans ⟨fun ht => ht.2 fun offer offers hoffers => ?_, fun hw => ?_⟩
  · exact hno offer offers (offerList?_eq_some_iff.mpr hoffers)
  · exact ⟨fun offer offers hoffers => (hno offer offers (offerList?_eq_some_iff.mpr hoffers)).elim,
      fun _ => hw⟩

theorem told_of_cons (hn : n < 300) (ho : offerList? body = some (offer :: offers)) :
    Policy.offerSigning.Told n body none ↔ TellsOffer offer := by
  have hoffers := offerList?_eq_some_iff.mp ho
  refine (iff_of_eq (if_pos hn)).trans ⟨fun ht => ht.1 offer offers hoffers, fun ht => ?_⟩
  refine ⟨fun offer' offers' hoffers' => ?_, fun hno => (hno offer offers hoffers).elim⟩
  cases ho.symm.trans (offerList?_eq_some_iff.mpr hoffers')
  exact ht

theorem not_refused (ho : offerList? body = some (offer :: offers))
    (hno : ∀ error, Value.member? "signature_error" offer = some (.map error) → False)
    (source : Value) : ¬Policy.offerSigning.refuses body source := by
  rw [offerSigning_refuses_iff ho]
  rintro ⟨error, herror, -⟩
  exact hno error herror

theorem isJson_of_offerList? (h : body.IsJson) (ho : offerList? body = some offers) :
    ∀ offer ∈ offers, (Value.map offer).IsJson := by
  intro offer hoffer
  exact (h.of_members (offerList?_eq_some_iff.mp ho)).of_mem_list (List.mem_map_of_mem hoffer)

theorem isJson_getD_member? (h : (Value.map offer).IsJson) (name : String) :
    ((Value.member? name offer).getD .null).IsJson := by
  cases hmember : Value.member? name offer with
  | none => exact .null
  | some v => exact h.of_member? hmember

theorem tellsOffer_iff_of_denied {error : List (Value × Value)}
    (herror : Value.member? "signature_error" offer = some (.map error)) :
    TellsOffer offer ↔ IsTellable (.map error) := by
  refine ⟨fun ht => ht.denied error herror, fun ht => ⟨fun error' herror' => ?_, fun hno => ?_⟩⟩
  · cases herror.symm.trans herror'
    exact ht
  · exact (hno error herror).elim

theorem tellsOffer_of_signed {data : List (Value × Value)}
    (hno : ∀ error, Value.member? "signature_error" offer = some (.map error) → False)
    (hdata : Value.member? "signature_data" offer = some (.map data)) : TellsOffer offer :=
  ⟨fun error herror => (hno error herror).elim, fun _ hunsigned => (hunsigned data hdata).elim⟩

theorem tellsOffer_iff_of_unsigned
    (hno : ∀ error, Value.member? "signature_error" offer = some (.map error) → False)
    (hunsigned : ∀ data, Value.member? "signature_data" offer = some (.map data) → False) :
    TellsOffer offer ↔ ((Value.member? "signature_data" offer).getD .null).isWritable = true := by
  have hdata : ((Value.member? "signature_data" offer).getD .null).isWritable = true ↔
      ∀ data, Value.member? "signature_data" offer = some data → data.isWritable = true := by
    cases Value.member? "signature_data" offer with
    | none => simp [Value.isWritable]
    | some data => simp
  rw [hdata]
  exact ⟨fun ht => ht.unsigned hno hunsigned,
    fun hw => ⟨fun error herror => (hno error herror).elim, fun _ _ => hw⟩⟩

theorem governs_signedOffer (hn : n < 300) (h : (Value.map offer).IsJson)
    (ho : offerList? body = some (offer :: offers)) :
    Policy.offerSigning.Governs n body none (signedOffer (.int n) offer) := by
  have hok : ¬Policy.offerSigning.fails n := Int.not_le.mpr hn
  have htold : Policy.offerSigning.Told n body none ↔ TellsOffer offer := told_of_cons hn ho
  rw [signedOffer]
  split
  next error herror =>
    have herrorTold := htold.trans (tellsOffer_iff_of_denied herror)
    have hkeyed := (h.of_member? herror).isTextKeyed
    by_cases ht : IsTellable (.map error)
    · rw [refuse_eq hkeyed ht]
      exact .of_verdict (herrorTold.mpr ht)
        (.refusedInPart hok ((offerSigning_refuses_iff ho).mpr ⟨error, herror, rfl⟩) _ _)
    · rw [refuse_eq_unwritten hkeyed ht]
      exact .of_unwritten (mt herrorTold.mp ht)
  next data hdata hno =>
    rw [SignedOffer.decode_map]
    exact .of_verdict (htold.mpr (tellsOffer_of_signed hno hdata))
      (.result hok (not_refused ho hno) _)
  next hno hunsigned =>
    exact .of_bind (succeedsIff_note (isJson_getD_member? h "signature_data").isTextKeyed)
      (htold.trans (tellsOffer_iff_of_unsigned hno hunsigned))
      fun _ => .unusable hok (not_refused ho hno) trivial _ _ _

theorem offerSigning_of_null (hn : n < 300) : offerSigning ⟨.int n, .null, none⟩ =
    .error (.client (.unexpected .offerEmpty none none)) := by
  simp only [offerSigning, Status.isSuccess?_int, hn, bind, Except.bind, decide_true, ↓reduceIte]
  rfl

theorem offerSigning_of_unlisted (h : body.IsJson) (hn : n < 300) (hw : body.isWritable = true)
    (hnull : body ≠ .null) (ho : offerList? body = none) :
    ∃ extra, offerSigning ⟨.int n, body, none⟩ =
      .error (.client (.unexpected .offerUnreadable (some extra) none)) := by
  obtain ⟨extra, hextra⟩ := (succeedsIff_description? h.isTextKeyed).ok hw
  simp only [offerSigning, Status.isSuccess?_int, hn, Value.isNull_eq_false hnull, ho, hextra, bind,
    Except.bind, decide_true, ↓reduceIte]
  exact ⟨extra, rfl⟩

theorem ne_null_of_offerList? (ho : offerList? body = some offers) : body ≠ .null := by
  rintro rfl
  cases ho

theorem offerSigning_of_nil (h : body.IsJson) (hn : n < 300) (hw : body.isWritable = true)
    (ho : offerList? body = some []) : offerSigning ⟨.int n, body, none⟩ =
      .error (.client (.unexpected .offerListEmpty none none)) := by
  have hnull := Value.isNull_eq_false (ne_null_of_offerList? ho)
  simp only [offerSigning, Status.isSuccess?_int, hn, hnull, ho, note_eq h.isTextKeyed hw, bind,
    Except.bind, decide_true, ↓reduceIte]
  rfl

theorem offerSigning_eq_unwritten (h : body.IsJson) (hn : n < 300) (hw : ¬body.isWritable = true)
    (hno : ∀ offer offers, offerList? body ≠ some (offer :: offers)) :
    offerSigning ⟨.int n, body, none⟩ = .unwritten := by
  have hnull : body.isNull = false := by
    rw [← Bool.not_eq_true]
    exact mt Value.isWritable_of_isNull hw
  simp only [offerSigning, Status.isSuccess?_int, hn, hnull, bind, Except.bind, decide_true,
    ↓reduceIte]
  cases ho : offerList? body with
  | none =>
    rw [(succeedsIff_description? h.isTextKeyed).error hw]
    rfl
  | some offers =>
    cases offers with
    | nil =>
      rw [(succeedsIff_note h.isTextKeyed).error hw]
      rfl
    | cons offer offers => exact (hno offer offers ho).elim

theorem offerSigning_of_cons (hn : n < 300) (ho : offerList? body = some (offer :: offers)) :
    offerSigning ⟨.int n, body, none⟩ = signedOffer (.int n) offer := by
  have hnull := Value.isNull_eq_false (ne_null_of_offerList? ho)
  simp only [offerSigning, Status.isSuccess?_int, hn, hnull, ho, bind, Except.bind, decide_true,
    ↓reduceIte]
  rfl

end Offers

theorem governs_offerSigning_of_unlisted (h : body.IsJson) (hn : n < 300)
    (hno : ∀ offer offers, offerList? body ≠ some (offer :: offers)) :
    Policy.offerSigning.Governs n body none (offerSigning ⟨.int n, body, none⟩) := by
  have hok : ¬Policy.offerSigning.fails n := Int.not_le.mpr hn
  have hb (source : Value) : ¬Policy.offerSigning.refuses body source := by
    rintro ⟨offer, offers, error, hoffers, -⟩
    exact hno offer offers (offerList?_eq_some_iff.mpr hoffers)
  have htold := told_of_unlisted hn hno
  by_cases hw : body.isWritable = true
  · refine .of_verdict (htold.mpr hw) ?_
    by_cases hnull : body = .null
    · rw [hnull, offerSigning_of_null hn, ← hnull]
      exact .unusable hok hb trivial _ _ _
    · cases ho : offerList? body with
      | none =>
        obtain ⟨extra, hextra⟩ := offerSigning_of_unlisted h hn hw hnull ho
        rw [hextra]
        exact .unusable hok hb trivial _ _ _
      | some offers =>
        cases offers with
        | nil =>
          rw [offerSigning_of_nil h hn hw ho]
          exact .unusable hok hb trivial _ _ _
        | cons offer offers => exact (hno offer offers ho).elim
  · rw [offerSigning_eq_unwritten h hn hw hno]
    exact .of_unwritten (mt htold.mp hw)

theorem governs_offerSigning (h : body.IsJson) :
    Policy.offerSigning.Governs n body failure (offerSigning ⟨.int n, body, failure⟩) := by
  cases failure with
  | some f => exact .lost _ n body f
  | none =>
    by_cases hn : n < 300
    · by_cases hlisted : ∃ offer offers, offerList? body = some (offer :: offers)
      · obtain ⟨offer, offers, ho⟩ := hlisted
        rw [offerSigning_of_cons hn ho]
        exact governs_signedOffer hn (isJson_of_offerList? h ho offer List.mem_cons_self) ho
      · exact governs_offerSigning_of_unlisted h hn fun offer offers ho =>
          hlisted ⟨offer, offers, ho⟩
    · have htold : Policy.offerSigning.Told n body none ↔ IsTellable body := iff_of_eq (if_neg hn)
      simp only [offerSigning, Status.isSuccess?_int, hn, bind, Except.bind]
      exact .of_refuse h.isTextKeyed htold (Int.not_lt.mp hn) not_false []

end Response

end SubscriptionClient
