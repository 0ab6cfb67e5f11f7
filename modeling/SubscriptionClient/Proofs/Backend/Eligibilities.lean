import SubscriptionClient.Proofs.Backend.Transparency
import SubscriptionClient.Proofs.Request.ProductCalls

/-!
# Eligibilities through the backend

Whatever happens to a request for the eligibility of products, its callers are told something of
each product, and only what an answer states. For a caller who joins the request of another this
rests on the products: under one key they are the same when all are named by texts.
-/

namespace SubscriptionClient

/-- Whether every reply has a response in it whose status is an integer. -/
def Surroundings.HasStatuses (E : Surroundings) : Prop :=
  ∀ s reply, E.replies s reply → ∃ (r : Response) (k : Int),
    reply.response? = .ok r ∧ r.status = .int k

theorem Surroundings.HasStatuses.isComplete {E : Surroundings} (h : E.HasStatuses) :
    E.IsComplete := by
  intro s reply hreply
  obtain ⟨r, -, hr, -⟩ := h s reply hreply
  exact ⟨r, hr⟩

namespace Backend

variable {E : Surroundings} {headers : List (Text × Text)} {clearable : Bool} {name : Text}
  {b c e : Backend} {user : Value} {receipt : List UInt8} {products : List Text} {n : ℕ}
  {job first : Job}

/-- Whether a future was in a batch that was taken out for this response, which the transport gave
to the one request of the batch. -/
def GotResponse (E : Surroundings) (headers : List (Text × Text)) (e : Backend) (n : ℕ)
    (r : Response) : Prop :=
  ∃ job batch s reply, .answered job batch r ∈ e.journal ∧ n ∈ batch ∧
    job.operation.exchange.prepare headers = .ok s ∧ s ∈ e.requests ∧ E.replies s reply ∧
    reply.response? = .ok r

/-- What can become, by the state `e`, of the future of a call for the eligibility of products that
is made in the state `b`. -/
structure IsFaithful (E : Surroundings) (headers : List (Text × Text)) (name : Text) (user : Value)
    (receipt : List UInt8) (products : List Text) (b : Backend) (n : ℕ) (e : Backend) : Prop where
  failed {fault : Fault} : e.state? n = some (.finished (.error fault)) →
    products ≠ [] ∧ receipt ≠ [] ∧ ¬user.IsUserId ∧ fault = .client
        (Admission.missingUserOf (Eligibility.table (fun _ => .unknown) products)) ∨
      b.queue.closed = true ∧ fault = .queueClosed name
  /-- Without a request every product is unknown; with one the verdicts follow its answer. -/
  succeeded {outcome : Outcome} : e.state? n = some (.finished (.ok outcome)) → ∃ verdict,
    outcome = .eligibilities (Eligibility.table verdict products) ∧
      ((products = [] ∨ receipt = []) ∧ (∀ p, verdict p = .unknown) ∨
        ∃ r, e.GotResponse E headers n r ∧ r.IsVerdictOf verdict)
  done : e.isResting = true → ∃ s, e.state? n = some s ∧ s.isDone = true

theorem IsSound.gotResponse (h : e.IsSound E headers name) {batch : List ℕ} {r : Response}
    (hf : job.operation.family = .introEligibility)
    (hmem : .answered job batch r ∈ e.journal) (hn : n ∈ batch)
    (hr : job.IsAnsweredBy E headers r) : e.GotResponse E headers n r := by
  obtain ⟨s, hs⟩ := Operation.exists_prepare_eq hf headers
  rcases hr with hr | ⟨s', reply, hs', hreply, hresponse⟩
  · rw [hs] at hr
    cases hr
  · refine ⟨job, batch, s', reply, hmem, hn, hs', ?_, hreply, hresponse⟩
    rw [h.requested.requests_eq]
    refine List.mem_append_left _ (List.mem_filterMap.mpr ⟨_, hmem, ?_⟩)
    simp only [Entry.request?, hs']

/-! ## What a call is owed -/

theorem exists_issue_eq (label : Text) {call : Call}
    (h : ∀ fault, call.admission ≠ .raised fault) (b : Backend) :
    ∃ c, b.issue label call = (c, .ok b.tickets.length) := by
  rcases issue_cases .unrestricted label call b with ⟨fault, hraised, -⟩ | ⟨c, -, hissue, -⟩
  · exact (h fault hraised).elim
  · exact ⟨c, hissue⟩

theorem length_lt_of_issue {call : Call} {label : Text}
    (hissue : b.issue label call = (c, .ok n)) (he : Reaches E c e) : n < e.tickets.length := by
  rcases issue_cases E label call b with ⟨fault, -, h⟩ | ⟨d, t, h, -, ht, -⟩
  · rw [h] at hissue
    cases (Prod.mk.inj hissue).2
  · obtain ⟨rfl, hn⟩ := Prod.mk.inj (hissue.symm.trans h)
    obtain rfl := Except.ok.inj hn
    obtain ⟨t', ht', -⟩ := he.ticket (ht ▸ List.getElem?_concat_length)
    exact (List.getElem?_eq_some_iff.mp ht').1

/-- Whoever has an outcome from the answer to a job for the same products has a verdict on them. -/
theorem exists_verdict {ns : List ℕ} {x : Attempt Outcome} (hE : E.HasStatuses)
    (hc : c.IsSound E headers name) (he : Reaches E c e) (howed : IsOwed first ns c.journal)
    (hn : n ∈ ns) (hf : first.operation.family = .introEligibility)
    (hhandle : ∀ batch r, .answered first batch r ∈ e.journal → first.operation.handle r =
      (Response.introEligibility (products.map .text) r).map .eligibilities)
    (hx : e.state? n = some (.finished x)) :
    ∃ verdict r, x = .ok (.eligibilities (Eligibility.table verdict products)) ∧
      e.GotResponse E headers n r ∧ r.IsVerdictOf verdict := by
  have hsound := hc.of_reaches hE.isComplete he
  obtain ⟨batch, r, hmem, hn', hanswer, rfl⟩ :=
    howed.exists_answered_of_finished hE.isComplete hc he hn hx
  have hgot := hsound.gotResponse hf hmem hn' hanswer
  have ⟨_, _, s, reply, _, _, _, _, hreply, hr⟩ := hgot
  obtain ⟨r', k, hr', hk⟩ := hE s reply hreply
  obtain rfl := Except.ok.inj (hr.symm.trans hr')
  obtain ⟨verdict, hverdict, htable⟩ := Response.exists_table_of_introEligibility hk products
  refine ⟨verdict, r, ?_, hgot, hverdict⟩
  rw [hhandle batch r hmem, htable]
  rfl

/-! ## The ends of a future -/

namespace IsFaithful

theorem of_error {fault : Fault} (hx : e.state? n = some (.finished (.error fault)))
    (h : products ≠ [] ∧ receipt ≠ [] ∧ ¬user.IsUserId ∧ fault = .client
        (Admission.missingUserOf (Eligibility.table (fun _ => .unknown) products)) ∨
      b.queue.closed = true ∧ fault = .queueClosed name) :
    b.IsFaithful E headers name user receipt products n e where
  failed := by
    intro fault' hx'
    obtain rfl := Except.error.inj (FutureState.finished.inj (Option.some.inj (hx.symm.trans hx')))
    exact h
  succeeded := by
    intro outcome hx'
    cases FutureState.finished.inj (Option.some.inj (hx.symm.trans hx'))
  done := fun _ => ⟨_, hx, rfl⟩

theorem of_unknown (h : products = [] ∨ receipt = []) (hx : e.state? n =
    some (.finished (.ok (.eligibilities (Eligibility.table (fun _ => .unknown) products))))) :
    b.IsFaithful E headers name user receipt products n e where
  failed := by
    intro fault hx'
    cases FutureState.finished.inj (Option.some.inj (hx.symm.trans hx'))
  succeeded := by
    intro outcome hx'
    obtain rfl := Except.ok.inj (FutureState.finished.inj (Option.some.inj (hx.symm.trans hx')))
    exact ⟨_, rfl, .inl ⟨h, fun _ => rfl⟩⟩
  done := fun _ => ⟨_, hx, rfl⟩

theorem of_verdict (he : e.IsSound E headers name) (hn : n < e.tickets.length)
    (h : ∀ x, e.state? n = some (.finished x) → ∃ verdict r,
      x = .ok (.eligibilities (Eligibility.table verdict products)) ∧
        e.GotResponse E headers n r ∧ r.IsVerdictOf verdict) :
    b.IsFaithful E headers name user receipt products n e where
  failed := by
    intro fault hx
    obtain ⟨verdict, r, hfault, -⟩ := h _ hx
    cases hfault
  succeeded := by
    intro outcome hx
    obtain ⟨verdict, r, houtcome, hgot, hverdict⟩ := h _ hx
    exact ⟨verdict, Except.ok.inj houtcome, .inr ⟨r, hgot, hverdict⟩⟩
  done := fun hrest => ⟨_, state?_eq_some_iff.mpr ⟨_, List.getElem?_eq_getElem hn, rfl⟩,
    isDone_of_isResting he hrest (List.getElem_mem hn)⟩

end IsFaithful

theorem isFaithful_of_dispatch (hE : E.HasStatuses)
    (hb : ReachesBy Call.NamesProducts E (start headers clearable name) b)
    (hp : ∀ p ∈ products, p.IsClean) {label : Text} {user' : Text} {key : Text}
    (h : (Call.eligibilityOf user receipt products).admission = .dispatch
      ⟨.getIntroEligibility user' (.text (RequestKey.fetchToken receipt)) (products.map .text),
        key⟩)
    (hissue : b.issue label (.eligibilityOf user receipt products) = (c, .ok b.tickets.length))
    (hc : c.IsSound E headers name) (he : Reaches E c e) (hno : e.HasNoCollision) :
    b.IsFaithful E headers name user receipt products b.tickets.length e := by
  have hcall := Call.namesProducts_eligibilityOf user receipt hp
  obtain ⟨c', hissue', -, hstate⟩ := exists_issue_of_dispatch hE.isComplete hb label hcall h
  obtain ⟨rfl, -⟩ := Prod.mk.inj (hissue.symm.trans hissue')
  rcases hstate with ⟨hq, hstate⟩ |
    ⟨other, first, ns, hother, hadmission, hslot, howed, hn, hjoined⟩
  · exact .of_error (Reaches.state?_of_finished he hstate) (.inr ⟨hq, rfl⟩)
  · have hf : first.operation.family = .introEligibility := congrArg Prod.fst hslot
    have hend := hc.of_reaches hE.isComplete he
    refine .of_verdict hend (length_lt_of_issue hissue he) fun x hx => ?_
    refine exists_verdict hE hc he howed hn hf (fun batch r hanswered => ?_) hx
    rcases hjoined with rfl | hregistered
    · rfl
    · -- the first under the key names the same products
      have hgrown := (Reaches.journal_grows hE.isComplete hc he).subset hregistered
      rw [hother.handle_eq hcall hadmission h (congrArg Prod.snd hslot) hf rfl
        (hno _ hanswered _ hgrown)]
      rfl

/-! ## Two callers of one request -/

/-- The second of two calls under one key joins the first, and both are told the same. -/
theorem run_of_shared {label label' : Text} {call call' : Call} {job' : Job} {s : Sent}
    {r : Response} {transport : Sent → Reply} (h : call.admission = .dispatch job)
    (h' : call'.admission = .dispatch job') (hslot : job'.slot = job.slot)
    (hs : job.operation.exchange.prepare headers = .ok s)
    (hr : (transport s).response? = .ok r)
    (hb : b = ((start headers clearable name).issue label call).1)
    (he : e = (b.issue label' call').1.run (List.replicate 6 (.work transport))) :
    b.tickets.length = 1 ∧ (b.issue label' call').2 = .ok 1 ∧ e.isResting = true ∧
      e.state? 1 = some (.finished (job.operation.handle r)) ∧
      e.journal = [.registered 0 job .first, .accepted job, .registered 1 job' .joined,
        .answered job [0, 1] r] := by
  obtain ⟨hf, hkey⟩ := Prod.mk.inj hslot
  subst hb he
  simp [run, List.replicate, act, issue, h, h', dispatch, enrol, handOut, start, submit, record,
    setRegistry, setFuture, hf, hkey, Registry.register, Registry.contains, Registry.batch?,
    Registry.empty, Registry.batchIn?, Registry.registerIn, Registry.drain?, Registry.removeIn,
    WorkQueue.opened, WorkQueue.submit, Worker.started, WorkQueue.take, WorkQueue.finish, work,
    send, hs, hr, answer, note, finish, deliver, Future.deliver?, conclude, isResting, state?]

def askingFor (products : List Value) : Call :=
  .getIntroEligibility (.text "u".toText) [0] (.list products)

def askedFor (products : List Value) : Operation :=
  .getIntroEligibility "u".toText (.text (RequestKey.fetchToken [0])) products

def replyOf (members : List (Value × Value)) : Sent → Reply :=
  fun _ => .ofResponse ⟨.int 200, .map members, none⟩

/-- Surroundings in which every request succeeds with this object and nobody is cancelled. -/
def answering (members : List (Value × Value)) : Surroundings :=
  .steady (replyOf members) fun _ => False

def afterFirst (ps : List Value) : Backend :=
  ((start [] true "driver".toText).issue "first".toText (askingFor ps)).1

def afterSecond (ps qs : List Value) : Backend :=
  ((afterFirst ps).issue "second".toText (askingFor qs)).1

def atRest (members : List (Value × Value)) (ps qs : List Value) : Backend :=
  (afterSecond ps qs).run (List.replicate 6 (.work (replyOf members)))

variable {P : Call → Prop} {members : List (Value × Value)} {ps qs : List Value} {key : Text}

theorem hasStatuses_answering (members : List (Value × Value)) :
    (answering members).HasStatuses := by
  rintro s reply rfl
  exact ⟨_, 200, rfl, rfl⟩

theorem admission_askingFor (hps : ps ≠ []) (hkey : (askedFor ps).key? = .ok key) :
    (askingFor ps).admission = .dispatch ⟨askedFor ps, key⟩ := by
  have hlist : (askingFor ps).productList? = some ps := rfl
  have hrequest : Admission.request (askedFor ps) = .dispatch ⟨askedFor ps, key⟩ := by
    rw [Admission.request, hkey]
  rw [askingFor, Call.admission_of_productList? hlist, ← hrequest]
  exact Call.introEligibility_of_request hps (List.cons_ne_nil _ _) rfl

theorem exists_key_askedFor (hp : ∀ p ∈ products, p.IsClean) :
    ∃ key, (askedFor (products.map .text)).key? = .ok key := by
  have huser : (Value.text "u".toText).IsIdentifier := ⟨_, rfl, Text.isClean_toText "u"⟩
  have hplain : (askingFor (products.map .text)).IsPlain :=
    ⟨huser, Call.namesProducts_eligibilityOf (.text "u".toText) [0] hp⟩
  obtain ⟨v, hv, hcanonical⟩ :=
    Call.exists_isCanonical_identity (Call.Asks.getIntroEligibility rfl rfl [0]) hplain
  exact ⟨_, (Operation.key?_eq _ hv).trans (RequestKey.make_eq hcanonical)⟩

theorem reachesBy_afterFirst (hP : P (askingFor ps)) :
    ReachesBy P E (start [] true "driver".toText) (afterFirst ps) :=
  .single (.issued "first".toText hP)

theorem reachesBy_atRest :
    ReachesBy P (answering members) (afterSecond ps qs) (atRest members ps qs) := by
  have hwork : ∀ action ∈ List.replicate 6 (Action.work (replyOf members)),
      action = .work (replyOf members) := fun _ => List.eq_of_mem_replicate
  refine reachesBy_run (fun action haction => hwork action haction ▸ trivial) ⟨?_, ?_⟩
    (followsWith_issue (followsWith_issue (followsWith_start _ _ _) _ _) _ _)
  · intro t ht s
    rw [Action.work.inj (hwork _ ht)]
    rfl
  · intro n hn
    cases hwork _ hn

/-- A caller joins the request of another for products that are written alike, and is told of
those. -/
theorem told_of_first (hps : ps ≠ []) (hproducts : products ≠ [])
    (hp : ∀ p ∈ products, p.IsClean) (hw : Json.write? Json.compact (.list ps) =
      Json.write? Json.compact (.list (products.map .text)))
    (members : List (Value × Value)) :
    (afterFirst ps).issue "second".toText (askingFor (products.map .text)) =
        (afterSecond ps (products.map .text), .ok (afterFirst ps).tickets.length) ∧
      (atRest members ps (products.map .text)).isResting = true ∧
      (atRest members ps (products.map .text)).HasNoCollision ∧
      (atRest members ps (products.map .text)).state? (afterFirst ps).tickets.length =
        some (.finished ((Response.introEligibility ps
          ⟨.int 200, .map members, none⟩).map .eligibilities)) := by
  obtain ⟨key, hkey⟩ := exists_key_askedFor hp
  have hsecond := admission_askingFor (mt List.map_eq_nil_iff.mp hproducts) hkey
  have hfirst := admission_askingFor hps ((Operation.key?_congr hw).trans hkey)
  obtain ⟨s, hs⟩ := Operation.exists_prepare_eq (o := askedFor ps) rfl []
  have hreply : (replyOf members s).response? = .ok ⟨.int 200, .map members, none⟩ := rfl
  have hrunFirst : afterFirst ps =
      ((start [] true "driver".toText).issue "first".toText (askingFor ps)).1 := by
    rw [afterFirst]
  have hrun : atRest members ps (products.map .text) =
      ((afterFirst ps).issue "second".toText (askingFor (products.map .text))).1.run
        (List.replicate 6 (.work (replyOf members))) := by
    rw [atRest, afterSecond]
  obtain ⟨hlength, hissue, hrest, hstate, hjournal⟩ :=
    run_of_shared hfirst hsecond rfl hs hreply hrunFirst hrun
  have hoperation : ∀ entry ∈ (atRest members ps (products.map .text)).journal,
      ∃ qs, entry.job.operation = askedFor qs ∧ Json.write? Json.compact (.list qs) =
        Json.write? Json.compact (.list (products.map .text)) := by
    rw [hjournal]
    simp only [List.forall_mem_cons]
    exact ⟨⟨ps, rfl, hw⟩, ⟨ps, rfl, hw⟩, ⟨_, rfl, rfl⟩, ⟨ps, rfl, hw⟩, List.forall_mem_nil _⟩
  rw [hlength]
  refine ⟨Prod.ext (by rw [afterSecond]) hissue, hrest, ?_, hstate⟩
  intro entry hentry entry' hentry'
  obtain ⟨qs, hqs, hw⟩ := hoperation entry hentry
  obtain ⟨qs', hqs', hw'⟩ := hoperation entry' hentry'
  rw [hqs, hqs']
  exact Operation.not_collides_of_write? (hw.trans hw'.symm)

/-! ## The main statement -/

/-- Whatever the backend answers, and whichever calls overlap, a call for the eligibility of
products fails only without a user or after closing. It is told what the answer to its batch states
of each of its products, and nothing else. -/
theorem eligibility_is_never_invented (hE : E.HasStatuses) (headers : List (Text × Text))
    (clearable : Bool) (name : Text) :
    (∀ actions, (∀ a ∈ actions, a.All Call.NamesProducts) → E.Allows actions →
      ReachesBy Call.NamesProducts E (start headers clearable name)
        ((start headers clearable name).run actions)) ∧
    ∀ b, ReachesBy Call.NamesProducts E (start headers clearable name) b →
      ∀ label user receipt products, (∀ p ∈ products, p.IsClean) →
        ∃ c, b.issue label (.eligibilityOf user receipt products) = (c, .ok b.tickets.length) ∧
          ReachesBy Call.NamesProducts E b c ∧
          ∀ e, ReachesBy Call.NamesProducts E c e → e.HasNoCollision →
            b.IsFaithful E headers name user receipt products b.tickets.length e := by
  refine ⟨?_, ?_⟩
  · intro actions hnames hallows
    exact reachesBy_run hnames hallows (followsWith_start headers clearable name)
  · intro b hb label user receipt products hp
    have hadmitted := Call.isAdmittedTo_admission user receipt hp
    obtain ⟨c, hissue⟩ := exists_issue_eq label hadmitted.ne_raised b
    have hstep := CallStep.issued (E := E) (b := b) label
      (Call.namesProducts_eligibilityOf user receipt hp)
    rw [hissue] at hstep
    refine ⟨c, hissue, .single hstep, fun e he hno => ?_⟩
    have hc := isSound_of_reaches hE.isComplete (ReachesBy.reaches (hb.tail hstep))
    generalize hadmission : (Call.eligibilityOf user receipt products).admission = a at hadmitted
    cases hadmitted with
    | unknown h => exact .of_unknown h (state?_of_settled hadmission hissue he.reaches)
    | missingUser hproducts hreceipt huser =>
      exact .of_error (state?_of_settled hadmission hissue he.reaches)
        (.inl ⟨hproducts, hreceipt, huser, rfl⟩)
    | request => exact isFaithful_of_dispatch hE hb hp hadmission hissue hc he.reaches hno

/-- Two callers ask for two products, one of which they name twice. Of the other the answer states
no truth value. -/
theorem eligibility_of_two_products :
    let products := ["pro", "lite", "pro"].map String.toText
    let members := [(.text "pro".toText, .bool true), (.text "lite".toText, .text "yes".toText)]
    let ps := products.map .text
    (answering members).HasStatuses ∧
      ReachesBy Call.NamesProducts (answering members) (start [] true "driver".toText)
        (afterFirst ps) ∧
      (afterFirst ps).IsFaithful (answering members) [] "driver".toText (.text "u".toText) [0]
        products (afterFirst ps).tickets.length (atRest members ps ps) ∧
      (atRest members ps ps).HasNoCollision ∧
      (atRest members ps ps).state? (afterFirst ps).tickets.length =
        some (.finished (.ok (.eligibilities
          [(.text "pro".toText, .eligible), (.text "lite".toText, .unknown)]))) := by
  intro products members ps
  have hclean : ∀ p ∈ products, p.IsClean := by
    intro p hp
    obtain ⟨name, -, rfl⟩ := List.mem_map.mp hp
    exact Text.isClean_toText name
  have hnames : (askingFor ps).NamesProducts :=
    Call.namesProducts_eligibilityOf (.text "u".toText) [0] hclean
  have hfirst := reachesBy_afterFirst (E := answering members) hnames
  obtain ⟨hissue, -, hno, hstate⟩ :=
    told_of_first (List.cons_ne_nil _ _) (List.cons_ne_nil _ _) hclean rfl members
  have hall := eligibility_is_never_invented (hasStatuses_answering members) [] true
    "driver".toText
  obtain ⟨c, hissue', -, hfaithful⟩ :=
    hall.2 _ hfirst "second".toText (.text "u".toText) [0] products hclean
  obtain ⟨rfl, -⟩ := Prod.mk.inj (hissue.symm.trans hissue')
  exact ⟨hasStatuses_answering members, hfirst, hfaithful _ reachesBy_atRest hno, hno,
    hstate⟩

/-- Whether someone who asks for a product `p` is not told of it, although the answer states that
it is eligible, because another caller asked for `v`. -/
def IsMistakenFor (p : Text) (v : Value) : Prop :=
  let members := [(.text p, .bool true)]
  let b := afterFirst [v]
  let c := afterSecond [v] [.text p]
  let e := atRest members [v] [.text p]
  (answering members).HasStatuses ∧
    Reaches (answering members) (start [] true "driver".toText) b ∧
    b.issue "second".toText (.eligibilityOf (.text "u".toText) [0] [p]) =
      (c, .ok b.tickets.length) ∧
    Reaches (answering members) c e ∧ e.HasNoCollision ∧
    ¬b.IsFaithful (answering members) [] "driver".toText (.text "u".toText) [0] [p]
      b.tickets.length e

theorem isMistakenFor_of_write? {p : Text} {v : Value} (hp : p.IsClean) (hv : v ≠ .text p)
    (hkey : v.isKey = true)
    (hw : Json.write? Json.compact v = Json.write? Json.compact (.text p)) :
    IsMistakenFor p v := by
  have hproducts : ∀ q ∈ [p], q.IsClean := by simpa using hp
  have hsingle (w : Value) : Json.write? Json.compact (.list [w]) =
      (Json.write? Json.compact w).map fun t => Json.enclose "[" "]" Json.compact [t] := by
    rw [Json.write?, Json.writeItems?, Json.writeItems?]
    cases Json.write? Json.compact w <;> rfl
  have hlist : Json.write? Json.compact (.list [v]) =
      Json.write? Json.compact (.list ([p].map .text)) := by
    rw [List.map_cons, List.map_nil, hsingle, hsingle, hw]
  obtain ⟨hissue, -, hno, hstate⟩ := told_of_first (List.cons_ne_nil v [])
    (List.cons_ne_nil p []) hproducts hlist [(.text p, .bool true)]
  refine ⟨hasStatuses_answering _,
    ReachesBy.reaches (reachesBy_afterFirst (P := fun _ => True) trivial), hissue,
    ReachesBy.reaches (reachesBy_atRest (P := fun _ => True)), hno, fun h => ?_⟩
  have htold : ∃ x, Response.introEligibility [v] ⟨.int 200, .map [(.text p, .bool true)], none⟩ =
      .ok [(v, x)] := by
    simp [Response.introEligibility, Response.checkKeys, hkey, Status.isSuccess?_int, Except.map,
      bind, Except.bind, pure, Except.pure, Eligibility.ofProducts, Value.collect, Value.put]
  obtain ⟨x, htold⟩ := htold
  rw [htold] at hstate
  obtain ⟨verdict, htable, -⟩ := h.succeeded hstate
  have hentry := List.cons.inj (Outcome.eligibilities.inj htable)
  exact hv (Prod.mk.inj hentry.1).1

/-- A decimal is written like a text, and a surrogate pair like the character it stands for. -/
theorem joined_call_may_be_mistaken :
    IsMistakenFor "1".toText (.decimal (.ofInt 1)) ∧
      IsMistakenFor "😀".toText (.text [⟨0xD83D, by decide⟩, ⟨0xDE00, by decide⟩]) := by
  refine ⟨isMistakenFor_of_write? (Text.isClean_toText _) nofun rfl rfl,
    isMistakenFor_of_write? (Text.isClean_toText _) (fun h => ?_) rfl rfl⟩
  exact absurd (Value.text.inj h) (by decide)

end Backend

end SubscriptionClient
