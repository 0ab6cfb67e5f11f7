import SubscriptionClient.Proofs.Response.Refusals
import SubscriptionClient.Proofs.Value.SameJson
import SubscriptionClient.Response.CustomerInfo

/-!
# Outcomes

The status of an answer is an integer, and is compared as one. An answer with customer info comes to
one of five outcomes, by its status, by what its body is read as and by the attribute errors, unless
what it has to tell cannot be written.
-/

namespace SubscriptionClient

/-! ## Integer statuses -/

namespace Decimal

theorem compareMagnitude_zero (c d : Nat) : compareMagnitude c 0 d 0 = compare c d :=
  if_pos (.inl rfl)

theorem compare_eq_of_lt_iff {c d : Nat} {m n : Int} (hlt : c < d ↔ m < n) (hgt : d < c ↔ n < m) :
    compare c d = compare m n := by
  simp only [Nat.compare_eq_ite_lt, Int.compare_eq_ite_lt, hlt, hgt]

theorem compare?_ofInt (m n : Int) : (ofInt m).compare? (ofInt n) = some (compare m n) := by
  have hsign (k : Int) : (decide (k < 0) && k.natAbs != 0) = decide (k < 0) := by
    rw [Bool.eq_iff_iff]
    simp
    omega
  rw [ofInt, ofInt, compare?, hsign, hsign, compareMagnitude_zero, compareMagnitude_zero]
  by_cases hm : m < 0 <;> by_cases hn : n < 0 <;> simp only [hm, hn, decide_true, decide_false]
  · rw [compare_eq_of_lt_iff] <;> omega
  · rw [Int.compare_eq_lt.mpr (by omega)]
  · rw [Int.compare_eq_gt.mpr (by omega)]
  · rw [compare_eq_of_lt_iff] <;> omega

theorem lt_ofInt (m n : Int) : (ofInt m).lt (ofInt n) = decide (m < n) := by
  rw [lt, compare?_ofInt, Bool.eq_iff_iff]
  simp [Int.compare_eq_lt]

theorem le_ofInt (m n : Int) : (ofInt m).le (ofInt n) = decide (m ≤ n) := by
  rw [le, lt, eq, compare?_ofInt, Bool.eq_iff_iff]
  simp [Int.compare_eq_lt, Int.le_iff_lt_or_eq]

theorem eq_ofInt (m n : Int) : (ofInt m).eq (ofInt n) = decide (m = n) := by
  rw [eq, compare?_ofInt, Bool.eq_iff_iff]
  simp

end Decimal

namespace Status

variable (n : Int)

theorem isSuccess?_int : isSuccess? (.int n) = .ok (decide (n < 300)) :=
  congrArg Except.ok (Decimal.lt_ofInt n 300)

theorem isPostSuccess?_int : isPostSuccess? (.int n) = .ok (decide (n ≤ 300)) :=
  congrArg Except.ok (Decimal.le_ofInt n 300)

theorem isServerError?_int : isServerError? (.int n) = .ok (decide (500 ≤ n)) :=
  congrArg Except.ok (Decimal.le_ofInt 500 n)

theorem isBelowServerError?_int : isBelowServerError? (.int n) = .ok (decide (n < 500)) :=
  congrArg Except.ok (Decimal.lt_ofInt n 500)

theorem equals_int (m : Int) : equals m (.int n) = decide (n = m) := Decimal.eq_ofInt n m

end Status

namespace Response

variable {body : Value} {n : Int} {parsed : Attempt CustomerInfo}

theorem succeedsIff_statusText? (n : Int) : SucceedsIff (.misuse .tooManyDigits)
    (Numeral.isWritable n = true) (statusText? (.int n)) := by
  have hwrite := (Numeral.succeedsIff_write? n).map ("statusCode: ".toText ++ ·)
  have hdisplay : (Value.int n).display? = Numeral.write? n := by
    rw [Value.display?, Value.isWritable]
    rfl
  rw [statusText?, hdisplay]
  exact Attempt.succeedsIff_ofValues hwrite

theorem succeedsIff_statusAndBody? (n : Int) (h : body.IsJson) :
    SucceedsIff (.misuse .tooManyDigits)
      (Numeral.isWritable n = true ∧ body.isWritable = true) (statusAndBody? (.int n) body) :=
  (succeedsIff_statusText? n).bind fun number =>
    (succeedsIff_description? h.isTextKeyed).map (number ++ ", json: ".toText ++ ·)

theorem attributeSync?_eq_unwritten (n : Int) (h : body.IsJson) (hd : ¬IsDecodable body) :
    attributeSync? body (.int n) = .unwritten := by
  rw [attributeSync?, Status.isServerError?_int, (succeedsIff_envelope? h.isTextKeyed).error hd]
  rfl

theorem attributeSync?_eq (n : Int) (h : body.IsJson) (hd : IsDecodable body) :
    attributeSync? body (.int n) =
      .ok ⟨decide ¬(500 ≤ n ∨ n = 404), (Envelope.ofBody body).resolvedErrors⟩ := by
  have hsynced : (!(decide (500 ≤ n) || Status.equals Status.notFound (.int n))) =
      decide ¬(500 ≤ n ∨ n = 404) := by
    rw [Status.equals_int, decide_not, Bool.decide_or, Status.notFound]
  rw [attributeSync?, Status.isServerError?_int, envelope?_eq h.isTextKeyed hd, ← hsynced]
  rfl

/-! ## Reading customer info -/

/-- The ends that reading a body as customer info may come to. -/
inductive Reading (body : Value) : Attempt CustomerInfo → Prop where
  | malformed (hnull : body = .null) (extra : Text) :
    Reading body (.error (.client (.unexpected .customerInfoMalformed (some extra) none)))
  | unreadable (hnull : body ≠ .null) {issues : List Issue}
    (hdecode : CustomerInfo.decode body = .error issues) (extra : Text) :
    Reading body (.error (.client (.unexpected .customerInfoUnreadable (some extra) (some issues))))
  | read {info : CustomerInfo} (hdecode : CustomerInfo.decode body = .ok info) :
    Reading body (.ok info)

/-- Status and body are written before anything is read. -/
theorem parseCustomerInfo_eq_unwritten (h : body.IsJson)
    (hw : ¬(Numeral.isWritable n = true ∧ body.isWritable = true)) :
    parseCustomerInfo body (.int n) = .unwritten := by
  rw [parseCustomerInfo, (succeedsIff_statusAndBody? n h).error hw]
  rfl

theorem reading_parseCustomerInfo (h : body.IsJson) (hn : Numeral.isWritable n = true)
    (hw : body.isWritable = true) : Reading body (parseCustomerInfo body (.int n)) := by
  obtain ⟨extra, hextra⟩ := (succeedsIff_statusAndBody? n h).ok ⟨hn, hw⟩
  simp only [parseCustomerInfo, hextra, bind, Except.bind]
  cases hnull : body.isNull with
  | true => exact .malformed (Value.eq_null_of_isNull hnull) extra
  | false =>
    have hne : body ≠ .null := by
      rintro rfl
      cases hnull
    cases hdecode : CustomerInfo.decode body with
    | error issues => exact .unreadable hne hdecode extra
    | ok info => exact .read hdecode

/-! ## Outcomes -/

/-- The refusal of a request for customer info. -/
def infoRefusal (n : Int) (body : Value) (info : Option CustomerInfo) : ClientError where
  kind := .backend (refusal body (.int n) info)
  context := finishable (decide (n < 500)) ++
    AttributeSync.context ⟨decide ¬(500 ≤ n ∨ n = 404), (Envelope.ofBody body).resolvedErrors⟩

/-- The ends that an answer with customer info may come to when it got through. -/
inductive Outcome (n : Int) (body : Value) : Attempt CustomerInfo → Prop where
  | refused (hn : 300 ≤ n) : Outcome n body (.error (.client (infoRefusal n body none)))
  | malformed (hn : n < 300) (hnull : body = .null) (extra : Text) :
    Outcome n body (.error (.client (.unexpected .customerInfoMalformed (some extra) none)))
  | unreadable (hn : n < 300) (hnull : body ≠ .null) {issues : List Issue}
    (hdecode : CustomerInfo.decode body = .error issues) (extra : Text) :
    Outcome n body
      (.error (.client (.unexpected .customerInfoUnreadable (some extra) (some issues))))
  | refusedInPart (hn : n < 300) {info : CustomerInfo}
    (hdecode : CustomerInfo.decode body = .ok info)
    (herrors : (Envelope.ofBody body).resolvedErrors.getD [] ≠ []) :
    Outcome n body (.error (.client (infoRefusal n body (some info))))
  | result (hn : n < 300) {info : CustomerInfo} (hdecode : CustomerInfo.decode body = .ok info)
    (herrors : (Envelope.ofBody body).resolvedErrors.getD [] = []) : Outcome n body (.ok info)

theorem Reading.outcome (hreading : Reading body parsed) (hn : n < 300)
    {next : CustomerInfo → Attempt CustomerInfo}
    (hnext : ∀ info, CustomerInfo.decode body = .ok info → Outcome n body (next info)) :
    Outcome n body (parsed.bind next) := by
  cases hreading with
  | malformed hnull extra => exact .malformed hn hnull extra
  | unreadable hnull hdecode extra => exact .unreadable hn hnull hdecode extra
  | read hdecode => exact hnext _ hdecode

theorem AttributeSync.hasErrors_iff (s : AttributeSync) :
    s.hasErrors = true ↔ s.errors.getD [] ≠ [] := by
  obtain ⟨synced, _ | _ | ⟨e, es⟩⟩ := s <;> simp [hasErrors]

theorem customerInfo_of_fails (h : body.IsJson) (hn : 300 ≤ n) (ht : IsTellable body) :
    customerInfo ⟨.int n, body, none⟩ = .error (.client (infoRefusal n body none)) := by
  simp only [customerInfo, Status.isSuccess?_int, Int.not_lt.mpr hn,
    attributeSync?_eq n h ht.isDecodable, Status.isBelowServerError?_int,
    refuse_eq h.isTextKeyed ht, bind, Except.bind]
  rfl

theorem customerInfo_of_errors (h : body.IsJson) (hn : n < 300) (hw : body.isWritable = true)
    (herrors : (Envelope.ofBody body).resolvedErrors.getD [] ≠ []) :
    customerInfo ⟨.int n, body, none⟩ = (parseCustomerInfo body (.int n)).bind fun info =>
      .error (.client (infoRefusal n body (some info))) := by
  have hsome (synced : Bool) :
      AttributeSync.hasErrors ⟨synced, (Envelope.ofBody body).resolvedErrors⟩ = true :=
    (AttributeSync.hasErrors_iff _).mpr herrors
  have htell := isTellable_of_isWritable hw
  simp only [customerInfo, Status.isSuccess?_int, hn, attributeSync?_eq n h htell.isDecodable,
    hsome, Status.isBelowServerError?_int, refuse_eq h.isTextKeyed htell, bind, Except.bind,
    decide_true, ↓reduceIte]
  rfl

/-- Without attribute errors an answer is what its body is read as. -/
theorem customerInfo_of_clean (h : body.IsJson) (hn : n < 300) (hw : body.isWritable = true)
    (hclean : (Envelope.ofBody body).resolvedErrors.getD [] = []) :
    customerInfo ⟨.int n, body, none⟩ = (parseCustomerInfo body (.int n)).bind .ok := by
  have hnone (synced : Bool) :
      AttributeSync.hasErrors ⟨synced, (Envelope.ofBody body).resolvedErrors⟩ = false := by
    rw [← Bool.not_eq_true, AttributeSync.hasErrors_iff]
    exact not_not.mpr hclean
  simp only [customerInfo, Status.isSuccess?_int, hn, attributeSync?_eq n h fun _ => hw, hnone,
    bind, Except.bind, decide_true, ↓reduceIte]
  rfl

/-- Whether what there is to tell of an answer with customer info can be written: its status and its
body, or what a refusal says. -/
def TellsInfo (n : Int) (body : Value) : Prop :=
  if n < 300 then Numeral.isWritable n = true ∧ body.isWritable = true else IsTellable body

theorem customerInfo_eq_unwritten (h : body.IsJson) (ht : ¬TellsInfo n body) :
    customerInfo ⟨.int n, body, none⟩ = .unwritten := by
  rw [TellsInfo] at ht
  split_ifs at ht with hn
  · simp only [customerInfo, Status.isSuccess?_int, hn, parseCustomerInfo_eq_unwritten h ht, bind,
      Except.bind, decide_true, ↓reduceIte]
    rfl
  · by_cases hd : IsDecodable body
    · simp only [customerInfo, Status.isSuccess?_int, hn, attributeSync?_eq n h hd,
        Status.isBelowServerError?_int, refuse_eq_unwritten h.isTextKeyed ht, bind, Except.bind]
      rfl
    · simp only [customerInfo, Status.isSuccess?_int, hn, attributeSync?_eq_unwritten n h hd, bind,
        Except.bind]
      rfl

theorem outcome_customerInfo (h : body.IsJson) (ht : TellsInfo n body) :
    Outcome n body (customerInfo ⟨.int n, body, none⟩) := by
  rw [TellsInfo] at ht
  split_ifs at ht with hn
  · have hreading := reading_parseCustomerInfo h ht.1 ht.2
    by_cases hclean : (Envelope.ofBody body).resolvedErrors.getD [] = []
    · rw [customerInfo_of_clean h hn ht.2 hclean]
      exact hreading.outcome hn fun info hdecode => .result hn hdecode hclean
    · rw [customerInfo_of_errors h hn ht.2 hclean]
      exact hreading.outcome hn fun info hdecode => .refusedInPart hn hdecode hclean
  · rw [customerInfo_of_fails h (Int.not_lt.mp hn) ht]
    exact .refused (Int.not_lt.mp hn)

end Response

end SubscriptionClient
