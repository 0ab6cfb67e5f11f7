import SubscriptionClient.Proofs.Response.Refusals
import SubscriptionClient.Proofs.Schema.UnknownMembers
import SubscriptionClient.Response.LogIn
import SubscriptionClient.Response.Offerings

/-!
# Answers with unknown members

What a body holds besides the members of its schema changes neither the kind of outcome that a
log-in or a request for offerings comes to, nor the result, nor the issues. It shows only in the
body that the outcome keeps, and in a body that the outcome would have to tell and cannot.
-/

namespace SubscriptionClient

/-- The result with the members of another body. -/
def LogInResult.withRaw (body : Value) (r : LogInResult) : LogInResult :=
  { r with customerInfo := { r.customerInfo with raw := body.members } }

/-- The offerings with the members of another body. -/
def Offerings.withRaw (body : Value) (o : Offerings) : Offerings := { o with raw := body.members }

namespace Envelope

theorem ofBody_eq_of_alike {body body' : Value} (h : Body.errorEnvelope.Alike body body') :
    ofBody body = ofBody body' := by
  have hdecode := Body.errorEnvelope.decode_eq_of_alike Body.hasFairScreens_errorEnvelope h
  rw [ofBody, ofBody, hdecode]

end Envelope

namespace Response

variable {status body body' : Value} {failure : Option Failure}

/-- Outcomes of two bodies that are classified alike: a refusal has the code and message that its
body states, an answer that cannot be used is described by its body, and a result keeps its body. In
all else the two are the same. -/
inductive AlikeBut {α : Type} (withRaw : Value → α → α) (status body body' : Value) :
    Attempt α → Attempt α → Prop where
  | fault (f : Fault) : AlikeBut withRaw status body body' (.error f) (.error f)
  | refused : AlikeBut withRaw status body body'
    (.error (.client ⟨.backend (refusal body status none), []⟩))
    (.error (.client ⟨.backend (refusal body' status none), []⟩))
  | unusable (answer : UnexpectedAnswer) (issues : List Issue) {extra extra' : Text}
    (h : description? body = .ok extra) (h' : description? body' = .ok extra') :
    AlikeBut withRaw status body body'
      (.error (.client (.unexpected answer (some extra) (some issues))))
      (.error (.client (.unexpected answer (some extra') (some issues))))
  | result (a : α) :
    AlikeBut withRaw status body body' (.ok (withRaw body a)) (.ok (withRaw body' a))

/-- Outcomes that are classified alike, unless one of them tells of a body that cannot be
written. -/
inductive AlikeUnlessLost {α : Type} (withRaw : Value → α → α) (status body body' : Value)
    (a a' : Attempt α) : Prop where
  | alike (h : AlikeBut withRaw status body body' a a')
  | lostLeft (hw : body.isWritable = false) (h : a = .unwritten)
  | lostRight (hw : body'.isWritable = false) (h : a' = .unwritten)

theorem AlikeUnlessLost.alike_of_isWritable {α : Type} {withRaw : Value → α → α}
    {a a' : Attempt α} (h : AlikeUnlessLost withRaw status body body' a a')
    (hw : body.isWritable = true) (hw' : body'.isWritable = true) :
    AlikeBut withRaw status body body' a a' := by
  cases h with
  | alike h => exact h
  | lostLeft hno => exact absurd (hno.symm.trans hw) Bool.false_ne_true
  | lostRight hno => exact absurd (hno.symm.trans hw') Bool.false_ne_true

/-- Both bodies are described, and what follows goes by the descriptions. -/
theorem alikeUnlessLost_bind {α β : Type} {withRaw : Value → α → α} {c c' : Attempt β}
    {next next' : β → Attempt α}
    (hc : SucceedsIff (.misuse .tooManyDigits) (body.isWritable = true) c)
    (hc' : SucceedsIff (.misuse .tooManyDigits) (body'.isWritable = true) c')
    (hnext : ∀ x x', c = .ok x → c' = .ok x' →
      AlikeUnlessLost withRaw status body body' (next x) (next' x')) :
    AlikeUnlessLost withRaw status body body' (c.bind next) (c'.bind next') := by
  by_cases hw : body.isWritable = true
  · by_cases hw' : body'.isWritable = true
    · obtain ⟨x, hx⟩ := hc.ok hw
      obtain ⟨x', hx'⟩ := hc'.ok hw'
      rw [hx, hx']
      exact hnext x x' hx hx'
    · exact .lostRight (Bool.eq_false_iff.mpr hw') (by rw [hc'.error hw']; rfl)
  · exact .lostLeft (Bool.eq_false_iff.mpr hw) (by rw [hc.error hw]; rfl)

section Alike

variable {α : Type} {withRaw : Value → α → α}
variable (hbody : body.IsTextKeyed) (hbody' : body'.IsTextKeyed)
include hbody hbody'

theorem alikeUnlessLost_refuse : AlikeUnlessLost withRaw status body body'
    (refuse body status [] none) (refuse body' status [] none) := by
  by_cases ht : IsTellable body
  · by_cases ht' : IsTellable body'
    · rw [refuse_eq hbody ht, refuse_eq hbody' ht']
      exact .alike .refused
    · exact .lostRight (Bool.eq_false_iff.mpr (mt isTellable_of_isWritable ht'))
        (refuse_eq_unwritten hbody' ht' status [] none)
  · exact .lostLeft (Bool.eq_false_iff.mpr (mt isTellable_of_isWritable ht))
      (refuse_eq_unwritten hbody ht status [] none)

theorem alikeUnlessLost_unusable (answer : UnexpectedAnswer) (issues : List Issue) :
    AlikeUnlessLost withRaw status body body'
      ((description? body).bind fun extra =>
        .error (.client (.unexpected answer (some extra) (some issues))))
      ((description? body').bind fun extra =>
        .error (.client (.unexpected answer (some extra) (some issues)))) :=
  alikeUnlessLost_bind (succeedsIff_description? hbody)
    (succeedsIff_description? hbody') fun _ _ h h' => .alike (.unusable answer issues h h')

theorem alikeUnlessLost_logIn (h : Body.customerInfo.Alike body body') :
    AlikeUnlessLost LogInResult.withRaw status body body' (logIn ⟨status, body, failure⟩)
      (logIn ⟨status, body', failure⟩) := by
  have hnull := Body.customerInfo.isNull_eq_of_alike h
  have hdecode := Body.decode_eq_of_alike ("CustomerInfoResponse", Body.customerInfo)
    (by simp [Body.contracts]) h
  cases failure with
  | some f => exact .alike (.fault _)
  | none =>
    simp only [logIn, CustomerInfo.decode, hdecode, hnull, bind, Except.bind]
    cases Status.isSuccess? status with
    | error f => exact .alike (.fault f)
    | ok success =>
      cases success with
      | false => exact alikeUnlessLost_refuse hbody hbody'
      | true =>
        cases body'.isNull with
        | true => exact .alike (.fault _)
        | false =>
          cases Body.customerInfo.decode body' with
          | error issues => exact alikeUnlessLost_unusable hbody hbody' .logInUnreadable issues
          | ok record =>
            exact .alike (.result (LogInResult.mk (CustomerInfo.ofRecord body.members record) _))

theorem alikeUnlessLost_offerings (h : Body.offerings.Alike body body') :
    AlikeUnlessLost Offerings.withRaw status body body' (offerings ⟨status, body, failure⟩)
      (offerings ⟨status, body', failure⟩) := by
  have hnull := Body.offerings.isNull_eq_of_alike h
  have hdecode := Body.decode_eq_of_alike ("OfferingsResponse", Body.offerings)
    (by simp [Body.contracts]) h
  cases failure with
  | some f => exact .alike (.fault _)
  | none =>
    simp only [offerings, Offerings.decode, hdecode, hnull, bind, Except.bind]
    cases Status.isSuccess? status with
    | error f => exact .alike (.fault f)
    | ok success =>
      cases success with
      | false =>
        refine alikeUnlessLost_bind (succeedsIff_note hbody)
          (succeedsIff_note hbody') fun _ _ _ _ => ?_
        cases body'.isNull with
        | true =>
          cases statusText? status with
          | error f => exact .alike (.fault f)
          | ok extra => exact .alike (.fault _)
        | false => exact alikeUnlessLost_refuse hbody hbody'
      | true =>
        cases body'.isNull with
        | true => exact .alike (.fault _)
        | false =>
          cases Body.offerings.decode body' with
          | error issues =>
            exact alikeUnlessLost_unusable hbody hbody' .offeringsUnexpected issues
          | ok record => exact .alike (.result (Offerings.ofRecord body.members record))

/-- Bodies that differ in nothing that an envelope declares are refused in the same words. -/
theorem eq_of_refused (hw : body.isWritable = true) (hw' : body'.isWritable = true)
    (hstatus : Status.isSuccess? status = .ok false) (h : Body.errorEnvelope.Alike body body') :
    logIn ⟨status, body, failure⟩ = logIn ⟨status, body', failure⟩ ∧
      offerings ⟨status, body, failure⟩ = offerings ⟨status, body', failure⟩ := by
  have hnull := Body.errorEnvelope.isNull_eq_of_alike h
  have henvelope := Envelope.ofBody_eq_of_alike h
  have hrefuse {α : Type} : (refuse body status [] none : Attempt α) =
      refuse body' status [] none := by
    rw [refuse_eq hbody (isTellable_of_isWritable hw),
      refuse_eq hbody' (isTellable_of_isWritable hw'), refusal, refusal, henvelope]
  cases failure with
  | some f => exact ⟨rfl, rfl⟩
  | none =>
    simp only [logIn, offerings, hstatus, hrefuse, note_eq hbody hw, note_eq hbody' hw', hnull,
      bind, Except.bind]
    exact ⟨rfl, rfl⟩

end Alike

/-- Members that no schema declares where they stand are never seen, unless they are told and cannot
be written. -/
theorem unknown_members_are_invisible (hbody : body.IsTextKeyed) (hbody' : body'.IsTextKeyed)
    (status : Value) (failure : Option Failure) :
    (∀ contract ∈ Body.contracts, ∀ {v w : Value}, contract.2.Alike v w →
      contract.2.decode v = contract.2.decode w) ∧
    (Body.customerInfo.Alike body body' →
      AlikeUnlessLost LogInResult.withRaw status body body' (logIn ⟨status, body, failure⟩)
        (logIn ⟨status, body', failure⟩)) ∧
    (Body.offerings.Alike body body' →
      AlikeUnlessLost Offerings.withRaw status body body' (offerings ⟨status, body, failure⟩)
        (offerings ⟨status, body', failure⟩)) ∧
    (body.isWritable = true → body'.isWritable = true →
      Status.isSuccess? status = .ok false → Body.errorEnvelope.Alike body body' →
      logIn ⟨status, body, failure⟩ = logIn ⟨status, body', failure⟩ ∧
        offerings ⟨status, body, failure⟩ = offerings ⟨status, body', failure⟩) :=
  ⟨Body.decode_eq_of_alike, alikeUnlessLost_logIn hbody hbody',
    alikeUnlessLost_offerings hbody hbody', eq_of_refused hbody hbody'⟩

/-- Customer info with one entitlement, and with these members besides on three levels. -/
def decorated (extra : List (String × Value)) : Value :=
  .record (extra ++ [("request_date", .text "2020-01-01T00:00:00Z".toText),
    ("subscriber", .record (extra ++
      [("entitlements", .record
          [("pro", .record (extra ++ [("product_identifier", .text "monthly".toText)]))]),
        ("first_seen", .int 0), ("original_app_user_id", .text "me".toText)]))])

theorem isTextKeyed_decorated {extra : List (String × Value)}
    (h : ∀ f ∈ extra, f.2.IsTextKeyed) : (decorated extra).IsTextKeyed := by
  have hbeside {fields : List (String × Value)} (hf : ∀ f ∈ fields, f.2.IsTextKeyed) :
      (Value.record (extra ++ fields)).IsTextKeyed :=
    Value.isTextKeyed_record fun f hmem => (List.mem_append.mp hmem).elim (h f) (hf f)
  have hpro : (Value.record
      (extra ++ [("product_identifier", .text "monthly".toText)])).IsTextKeyed :=
    hbeside (by simpa using .text _)
  have hentitlements : (Value.record [("pro", .record
      (extra ++ [("product_identifier", .text "monthly".toText)]))]).IsTextKeyed :=
    Value.isTextKeyed_record (by simpa using hpro)
  refine hbeside (List.forall_mem_cons.mpr ⟨.text _, List.forall_mem_singleton.mpr ?_⟩)
  exact hbeside (by simpa using ⟨hentitlements, .int 0, .text _⟩)

/-- Members that no record declares. -/
def ornaments : List (String × Value) := [("color", .list []), ("size", .null)]

theorem alike_decorated : Body.customerInfo.Alike (decorated []) (decorated ornaments) := by
  have hpro : Body.entitlement.Alike (.record [("product_identifier", .text "monthly".toText)])
      (.record (ornaments ++ [("product_identifier", .text "monthly".toText)])) :=
    .inr ⟨_, _, rfl, rfl, .some rfl, .none, .none, .none, trivial⟩
  refine .inr ⟨_, _, rfl, rfl, .some rfl, .none, .some ?_, trivial⟩
  refine .inr ⟨_, _, rfl, rfl, .some rfl, .some rfl, .none, .none, .none, .some ?_, .none, .none,
    trivial⟩
  exact .inr ⟨_, _, rfl, rfl, .cons ⟨rfl, hpro⟩ .nil⟩

theorem ornaments_are_invisible :
    Body.customerInfo.Alike (decorated []) (decorated ornaments) ∧
      (decorated []).IsTextKeyed ∧ (decorated ornaments).IsTextKeyed ∧
      Body.customerInfo.decode (decorated []) = Body.customerInfo.decode (decorated ornaments) ∧
      ∃ result, logIn ⟨.int 201, decorated [], none⟩ = .ok result ∧
        logIn ⟨.int 201, decorated ornaments, none⟩ = .ok (result.withRaw (decorated ornaments)) ∧
        logIn ⟨.int 400, decorated [], none⟩ = logIn ⟨.int 400, decorated ornaments, none⟩ := by
  have hplain : (decorated []).IsTextKeyed := isTextKeyed_decorated nofun
  have hfancy : (decorated ornaments).IsTextKeyed :=
    isTextKeyed_decorated (by simpa [ornaments] using ⟨.list nofun, .null⟩)
  have hmem : ("CustomerInfoResponse", Body.customerInfo) ∈ Body.contracts := by
    simp [Body.contracts]
  obtain ⟨hdecode, halike, -⟩ := unknown_members_are_invisible hplain hfancy (.int 201) none
  obtain ⟨-, -, -, hrefused⟩ := unknown_members_are_invisible hplain hfancy (.int 400) none
  have henvelope : Body.errorEnvelope.Alike (decorated []) (decorated ornaments) :=
    .inr ⟨_, _, rfl, rfl, .none, .none, .none, .none, trivial⟩
  refine ⟨alike_decorated, hplain, hfancy, hdecode _ hmem alike_decorated, ?_⟩
  obtain ⟨result, hresult⟩ : ∃ result, logIn ⟨.int 201, decorated [], none⟩ = .ok result :=
    ⟨_, rfl⟩
  have hw : (decorated []).isWritable = true := by decide
  have hw' : (decorated ornaments).isWritable = true := by decide
  refine ⟨result, hresult, ?_, (hrefused hw hw' rfl henvelope).1⟩
  have houtcome := (halike alike_decorated).alike_of_isWritable hw hw'
  rw [hresult] at houtcome
  generalize logIn ⟨.int 201, decorated ornaments, none⟩ = other at houtcome
  cases houtcome
  rfl

/-- A member that no schema declares is seen when it has too many digits to be told. -/
theorem overlong_member_is_visible :
    Body.offerings.Alike (.map []) (.record [("x", .int Numeral.huge)]) ∧
      (Value.record [("x", .int Numeral.huge)]).IsTextKeyed ∧
      offerings ⟨.int 500, .map [], none⟩ =
        .error (.client ⟨.backend ⟨.null, .null, .int 500, none⟩, []⟩) ∧
      offerings ⟨.int 500, .record [("x", .int Numeral.huge)], none⟩ = .unwritten := by
  have hkeyed : (Value.record [("x", .int Numeral.huge)]).IsTextKeyed :=
    Value.isTextKeyed_record (by simpa using .int _)
  have hx : Value.member? "x" (Value.record [("x", .int Numeral.huge)]).members =
      some (.int Numeral.huge) := rfl
  have hw : ¬(Value.record [("x", .int Numeral.huge)]).isWritable = true :=
    Bool.eq_false_iff.mp (Value.isWritable_of_huge hx)
  have hempty : (Value.map []).IsTextKeyed := .map nofun nofun
  have hfails : Status.isSuccess? (.int 500) = .ok false := rfl
  refine ⟨.inr ⟨_, _, rfl, rfl, .none, .none, trivial⟩, hkeyed, ?_, ?_⟩
  · simp only [offerings, hfails, note_eq hempty (by decide),
      refuse_eq hempty (isTellable_of_isWritable (by decide)), bind, Except.bind]
    rfl
  · simp only [offerings, hfails, (succeedsIff_note hkeyed).error hw, bind, Except.bind]
    rfl

end Response

end SubscriptionClient
