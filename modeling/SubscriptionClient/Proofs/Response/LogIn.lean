import SubscriptionClient.Proofs.Response.CustomerInfo

/-!
# Log-ins

A log-in reads customer info on a path of its own, with names of its own for what may go wrong. The
two paths come to the same end wherever status and body can be written. The log-in asks less: it
only writes a body that it cannot read.
-/

namespace SubscriptionClient

namespace Response

variable {body : Value} {n : Int} {parsed : Attempt CustomerInfo} {logged : Attempt LogInResult}

/-- The ends that customer info and a log-in come to when they are read from one body. -/
inductive ReadAlike (n : Int) : Attempt CustomerInfo → Attempt LogInResult → Prop where
  | missing (extra : Text) :
    ReadAlike n (.error (.client (.unexpected .customerInfoMalformed (some extra) none)))
      (.error (.client (.unexpected .logInMissing none none)))
  | unreadable (issues : List Issue) (extra extra' : Text) :
    ReadAlike n (.error (.client (.unexpected .customerInfoUnreadable (some extra) (some issues))))
      (.error (.client (.unexpected .logInUnreadable (some extra') (some issues))))
  | read (info : CustomerInfo) : ReadAlike n (.ok info) (.ok ⟨info, decide (n = 201)⟩)

theorem readAlike (h : body.IsJson) (hn : n < 300) (hnw : Numeral.isWritable n = true)
    (hw : body.isWritable = true) :
    ReadAlike n (parseCustomerInfo body (.int n)) (logIn ⟨.int n, body, none⟩) := by
  obtain ⟨extra', hextra'⟩ := (succeedsIff_description? h.isTextKeyed).ok hw
  have hreading := reading_parseCustomerInfo h hnw hw
  have hcreated : Status.equals Status.created (.int n) = decide (n = 201) :=
    Status.equals_int n 201
  simp only [logIn, Status.isSuccess?_int, hn, hextra', hcreated, bind, Except.bind, decide_true,
    ↓reduceIte]
  generalize parseCustomerInfo body (.int n) = parsed at hreading
  cases hreading with
  | malformed hnull extra =>
    rw [hnull]
    exact .missing extra
  | unreadable hnull hdecode extra =>
    rw [Value.isNull_eq_false hnull, hdecode]
    exact .unreadable _ extra extra'
  | read hdecode =>
    obtain ⟨es, rfl⟩ := CustomerInfo.exists_mapping hdecode
    rw [hdecode]
    exact .read _

/-- How the answer to a log-in goes by what its body is read as. -/
structure GoesBy (logged : Attempt LogInResult) (n : Int) (parsed : Attempt CustomerInfo) :
    Prop where
  missing_iff : (∃ extra issues, logged.FailsWith (.unexpected .logInMissing extra issues)) ↔
    ∃ extra issues, parsed.FailsWith (.unexpected .customerInfoMalformed extra issues)
  /-- Both name the same issues. -/
  unreadable_iff : ∀ issues,
    (∃ extra, logged.FailsWith (.unexpected .logInUnreadable extra issues)) ↔
      ∃ extra, parsed.FailsWith (.unexpected .customerInfoUnreadable extra issues)
  issues : ∀ extra issues?, logged.FailsWith (.unexpected .logInUnreadable extra issues?) →
    ∃ issues, issues? = some issues
  result : (¬∃ extra issues, logged.FailsWith (.unexpected .logInMissing extra issues)) →
    (¬∃ extra issues, logged.FailsWith (.unexpected .logInUnreadable extra issues)) →
    ∃ info, parsed = .ok info ∧ logged = .ok ⟨info, decide (n = 201)⟩

theorem ReadAlike.goesBy (h : ReadAlike n parsed logged) : GoesBy logged n parsed := by
  cases h with
  | missing extra =>
    constructor <;> simp [ClientError.unexpected]
  | unreadable issues extra extra' =>
    constructor <;> simp [ClientError.unexpected]
  | read info =>
    constructor <;> simp

theorem not_goesBy_unwritten : ¬GoesBy logged n .unwritten := by
  intro h
  have hmissing : ¬∃ extra issues, logged.FailsWith (.unexpected .logInMissing extra issues) := by
    rw [h.missing_iff]
    rintro ⟨extra, issues, hfails⟩
    exact Attempt.not_failsWith_unwritten _ hfails
  have hunreadable :
      ¬∃ extra issues, logged.FailsWith (.unexpected .logInUnreadable extra issues) := by
    rintro ⟨extra, issues, hfails⟩
    obtain ⟨extra', hfails'⟩ := (h.unreadable_iff issues).mp ⟨extra, hfails⟩
    exact Attempt.not_failsWith_unwritten _ hfails'
  obtain ⟨info, hinfo, -⟩ := h.result hmissing hunreadable
  cases hinfo

theorem logIn_of_decode {info : CustomerInfo} (hn : n < 300)
    (hdecode : CustomerInfo.decode body = .ok info) :
    logIn ⟨.int n, body, none⟩ = .ok ⟨info, decide (n = 201)⟩ := by
  have hcreated : Status.equals Status.created (.int n) = decide (n = 201) :=
    Status.equals_int n 201
  obtain ⟨es, rfl⟩ := CustomerInfo.exists_mapping hdecode
  simp only [logIn, Status.isSuccess?_int, hn, hdecode, hcreated, bind, Except.bind, decide_true,
    ↓reduceIte]
  rfl

/-- A log-in reads what fetching customer info results in, if status and body can be written. It
does not need that to read customer info itself. -/
theorem log_in_goes_by_customer_info (h : body.IsJson) (hn : n < 300) :
    (GoesBy (logIn ⟨.int n, body, none⟩) n (parseCustomerInfo body (.int n)) ↔
        Numeral.isWritable n = true ∧ body.isWritable = true) ∧
      (Numeral.isWritable n = true → body.isWritable = true →
        (Envelope.ofBody body).resolvedErrors.getD [] = [] →
        ∀ result, logIn ⟨.int n, body, none⟩ = .ok result →
          customerInfo ⟨.int n, body, none⟩ = .ok result.customerInfo) ∧
      (¬(Numeral.isWritable n = true ∧ body.isWritable = true) →
        parseCustomerInfo body (.int n) = .unwritten ∧
          customerInfo ⟨.int n, body, none⟩ = .unwritten) ∧
      ∀ info, CustomerInfo.decode body = .ok info →
        logIn ⟨.int n, body, none⟩ = .ok ⟨info, decide (n = 201)⟩ := by
  refine ⟨⟨fun hgoes => ?_, fun hw => (readAlike h hn hw.1 hw.2).goesBy⟩,
    fun hnw hw hclean result hresult => ?_, fun hw => ?_, fun info => logIn_of_decode hn⟩
  · by_contra hw
    rw [parseCustomerInfo_eq_unwritten h hw] at hgoes
    exact not_goesBy_unwritten hgoes
  · have halike := readAlike h hn hnw hw
    rw [customerInfo_of_clean h hn hw hclean]
    rw [hresult] at halike
    generalize parseCustomerInfo body (.int n) = parsed at halike ⊢
    cases halike
    rfl
  · refine ⟨parseCustomerInfo_eq_unwritten h hw, customerInfo_eq_unwritten h ?_⟩
    rwa [TellsInfo, if_pos hn]

theorem new_user_gets_customer_info :
    (halfAccepted.without Envelope.errorNames).IsJson ∧ (201 : Int) < 300 ∧
      ∃ info, logIn ⟨.int 201, halfAccepted.without Envelope.errorNames, none⟩ = .ok ⟨info, true⟩ ∧
        parseCustomerInfo (halfAccepted.without Envelope.errorNames) (.int 201) = .ok info ∧
        customerInfo ⟨.int 201, halfAccepted.without Envelope.errorNames, none⟩ = .ok info := by
  have hjson := isJson_halfAccepted.without Envelope.errorNames
  have hnw : Numeral.isWritable 201 = true := by decide
  have hw : (halfAccepted.without Envelope.errorNames).isWritable = true := by decide
  obtain ⟨hgoes, hsame, -, -⟩ :=
    log_in_goes_by_customer_info hjson (show (201 : Int) < 300 by decide)
  have hclean := Envelope.resolvedErrors_without isJson_halfAccepted
  obtain ⟨result, hresult⟩ : ∃ result,
      logIn ⟨.int 201, halfAccepted.without Envelope.errorNames, none⟩ = .ok result := ⟨_, rfl⟩
  obtain ⟨info, hparsed, hlogged⟩ :=
    (hgoes.mpr ⟨hnw, hw⟩).result (by simp [hresult]) (by simp [hresult])
  have hinfo := hsame hnw hw (by rw [hclean]; rfl) _ hlogged
  exact ⟨hjson, by decide, info, hlogged, hparsed, hinfo⟩

/-- A log-in may read customer info that fetching it cannot tell. -/
theorem overlong_info_is_logged_in :
    overlong.IsJson ∧ (Envelope.ofBody overlong).resolvedErrors.getD [] = [] ∧
      (∃ info, logIn ⟨.int 201, overlong, none⟩ = .ok ⟨info, true⟩) ∧
      parseCustomerInfo overlong (.int 201) = .unwritten ∧
      customerInfo ⟨.int 201, overlong, none⟩ = .unwritten := by
  have hw : ¬(Numeral.isWritable 201 = true ∧ overlong.isWritable = true) := by
    simp [isWritable_overlong]
  refine ⟨isJson_overlong, rfl, ⟨_, rfl⟩, parseCustomerInfo_eq_unwritten isJson_overlong hw,
    customerInfo_eq_unwritten isJson_overlong ?_⟩
  rwa [TellsInfo, if_pos (by decide)]

end Response

end SubscriptionClient
