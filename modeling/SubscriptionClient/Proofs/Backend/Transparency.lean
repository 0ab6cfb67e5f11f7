import SubscriptionClient.Proofs.Backend.Closing
import SubscriptionClient.Proofs.Request.Alone

/-!
# Sharing cannot be told

With a transport whose answers only depend on what is sent, a caller who shares the request of
another gets what a request of its own would have come to. The request that is shared is that of the
first under the key, so this rests on keys that identify requests.
-/

namespace SubscriptionClient

def Surroundings.steady (transport : Sent → Reply) (cancels : ℕ → Prop) : Surroundings :=
  ⟨fun s reply => reply = transport s, cancels⟩

variable {transport : Sent → Reply} {cancels : ℕ → Prop}

theorem IsSteady.isComplete (h : IsSteady transport) :
    (Surroundings.steady transport cancels).IsComplete := by
  rintro s reply rfl
  exact h.complete s

theorem Job.alone_eq_of_isAnsweredBy {headers : List (Text × Text)} {job : Job} {r : Response}
    (h : job.IsAnsweredBy (.steady transport cancels) headers r) :
    job.operation.alone headers transport = job.operation.handle r := by
  rcases h with h | ⟨s, reply, hs, rfl, hr⟩
  · exact Operation.alone_of_unsent h
  · exact Operation.alone_of_sent hs hr

namespace Backend

variable {P : Call → Prop} {E : Surroundings} {headers : List (Text × Text)} {clearable : Bool}
  {name : Text} {a b e : Backend} {call : Call} {n : ℕ}

/-- Whether a call that was made while the queue was open got the future `n`, on the way from the
first state to the second. -/
def GotFuture (P : Call → Prop) (E : Surroundings) (a : Backend) (call : Call) (n : ℕ)
    (e : Backend) : Prop :=
  ∃ b label c, ReachesBy P E a b ∧ b.queue.closed = false ∧ P call ∧
    b.issue label call = (c, .ok n) ∧ ReachesBy P E c e

/-- Whether no two requests of a run have identities that collide. -/
def HasNoCollision (b : Backend) : Prop :=
  ∀ e ∈ b.journal, ∀ e' ∈ b.journal, ¬e.job.operation.Collides e'.job.operation

theorem hasNoCollision_of_get (h : ∀ e ∈ b.journal, e.job.operation.method = .get) :
    b.HasNoCollision := by
  rintro e he e' he' ⟨v, w, hv, hw, hne, -⟩
  -- what is fetched has no identity besides its path
  have hnull := Operation.isNull_identity _ hv
  have hnull' := Operation.isNull_identity _ hw
  rw [h e he] at hnull
  rw [h e' he'] at hnull'
  rw [Value.eq_null_of_isNull hnull, Value.eq_null_of_isNull hnull'] at hne
  exact hne rfl

/-! ## Where futures come from -/

theorem closed_eq_false_of_reaches (h : Reaches E b e) (he : e.queue.closed = false) :
    b.queue.closed = false := by
  by_contra hb
  rw [Reaches.closed h (by simpa using hb)] at he
  cases he

theorem exists_gotFuture (h : ReachesBy P E a e) (ha : a.tickets = [])
    (he : e.queue.closed = false) (hn : n < e.tickets.length) :
    ∃ call, GotFuture P E a call n e := by
  induction h with
  | refl => simp [ha] at hn
  | @tail b e hb hs ih =>
    have hopen := closed_eq_false_of_reaches (ReachesBy.reaches (.single hs)) he
    by_cases hold : n < b.tickets.length
    · obtain ⟨call, b', label, c, hb', hq, hP, hissue, hc⟩ := ih hopen hold
      exact ⟨call, b', label, c, hb', hq, hP, hissue, hc.tail hs⟩
    · cases hs with
      | quiet hs hlength => omega
      | @issued label call hP =>
        rcases issue_cases E label call b with ⟨fault, -, hissue⟩ | ⟨d, t, hissue, -, ht, -⟩
        · rw [hissue] at hn
          exact (hold hn).elim
        · rw [hissue, ht, List.length_append, List.length_singleton] at hn
          obtain rfl : n = b.tickets.length := by omega
          refine ⟨call, b, label, d, hb, hopen, hP, hissue, ?_⟩
          rw [hissue]

theorem admission_of_submission? {job : Job} (h : b.submission? call = some job) :
    call.admission = .dispatch job := by
  unfold submission? at h
  split at h
  · rename_i other hadmission
    split at h
    · rw [hadmission, Option.some.inj h]
    · cases h
  · cases h

theorem exists_call_of_accepted (h : ReachesBy P E (start headers clearable name) e) {job : Job}
    (hjob : job ∈ e.accepted) : ∃ call, P call ∧ call.admission = .dispatch job := by
  induction h with
  | refl => cases hjob
  | @tail b e hb hs ih =>
    cases hs with
    | @issued label call hP =>
      rw [(requests_and_accepted_issue label call b).2, List.mem_append, Option.mem_toList] at hjob
      rcases hjob with hjob | hjob
      · exact ih hjob
      · exact ⟨call, hP, admission_of_submission? hjob⟩
    | quiet hs hlength =>
      -- a job is accepted only when a future is handed out
      cases hs.order (Reaches.isOrderly (ReachesBy.reaches hb)) with
      | kept ha | sent _ _ ha | unsent _ ha => exact ih (ha ▸ hjob)
      | @accepted label other hbatch hq hd =>
        obtain ⟨d, t, hd', -, ht, -⟩ := exists_dispatch_eq E label other b
        obtain rfl := (Prod.mk.inj (hd.symm.trans hd')).1
        simp [ht] at hlength

/-- A call that asks for a job is refused after closing, or it is owed the answer to the job of the
first call under its key. -/
theorem exists_issue_of_dispatch (hE : E.IsComplete)
    (hb : ReachesBy P E (start headers clearable name) b) (label : Text) {job : Job}
    (hcall : P call) (h : call.admission = .dispatch job) :
    ∃ c, b.issue label call = (c, .ok b.tickets.length) ∧ Reaches E b c ∧
      (b.queue.closed = true ∧
          c.state? b.tickets.length = some (.finished (.error (.queueClosed name))) ∨
        ∃ other first ns, P other ∧ other.admission = .dispatch first ∧ first.slot = job.slot ∧
          IsOwed first ns c.journal ∧ b.tickets.length ∈ ns ∧
          (first = job ∨ .registered b.tickets.length job .joined ∈ c.journal)) := by
  have hsound := isSound_of_reaches hE hb.reaches
  have hreach := reaches_issue E label call b
  cases hbatch : b.batch? job.slot with
  | none =>
    cases hq : b.queue.closed with
    | false =>
      obtain ⟨c, hissue, -, howed⟩ := exists_issue_of_first E label h hbatch hq
      rw [hissue] at hreach
      exact ⟨c, hissue, hreach, .inr ⟨call, job, _, hcall, h, rfl, howed,
        List.mem_singleton_self _, .inl rfl⟩⟩
    | true =>
      obtain ⟨c, hissue, hstate, -⟩ := exists_issue_of_refused label h hbatch hq
      rw [hissue] at hreach
      rw [hsound.name_eq] at hstate
      exact ⟨c, hissue, hreach, .inl ⟨rfl, hstate⟩⟩
  | some batch =>
    obtain ⟨c, first, hissue, -, -, -, hfirst, hslot, hregistered, howed⟩ :=
      hsound.exists_issue_of_joined label h hbatch
    rw [hissue] at hreach
    have haccepted : first ∈ b.accepted := by
      rw [accepted_eq_of_reaches hE hb.reaches]
      exact List.mem_append_right _ hfirst
    obtain ⟨other, hother, hadmission⟩ := exists_call_of_accepted hb haccepted
    exact ⟨c, hissue, hreach, .inr ⟨other, first, _, hother, hadmission, hslot, howed,
      List.mem_append_right _ (List.mem_singleton_self _), .inr hregistered⟩⟩

/-! ## The main statement -/

theorem exists_alone_eq (ht : IsSteady transport)
    (hrest : e.isResting = true) (hno : e.HasNoCollision)
    (h : GotFuture Call.IsPlain (.steady transport cancels) (start headers clearable name) call n
      e) :
    ∃ outcome, call.alone headers transport = some outcome ∧
      e.HasOutcome (.steady transport cancels) outcome n := by
  obtain ⟨b, label, c, hb, hq, hplain, hissue, hc⟩ := h
  have hE : (Surroundings.steady transport cancels).IsComplete := ht.isComplete
  have hsound := isSound_of_reaches hE hb.reaches
  cases hadmission : call.admission with
  | raised fault => simp [issue, hadmission] at hissue
  | settled outcome =>
    exact ⟨outcome, by rw [Call.alone, hadmission],
      .inl (state?_of_settled hadmission hissue hc.reaches)⟩
  | dispatch job =>
    refine ⟨_, by rw [Call.alone, hadmission], ?_⟩
    obtain ⟨c', hissue', hreach, hstate⟩ := exists_issue_of_dispatch hE hb label hplain hadmission
    obtain ⟨rfl, hn⟩ := Prod.mk.inj (hissue.symm.trans hissue')
    obtain rfl := Except.ok.inj hn
    rcases hstate with ⟨hclosed, -⟩ |
      ⟨other, first, ns, hother, hadmission', hslot, howed, hmem, hjoined⟩
    · rw [hq] at hclosed
      cases hclosed
    · have hsound' := hsound.of_reaches hE hreach
      obtain ⟨whole, r, hanswered, hns, hanswer, hgiven⟩ :=
        howed.exists_answered hE hsound' hc.reaches hrest
      have halone : job.operation.alone headers transport =
          first.operation.alone headers transport := by
        rcases hjoined with rfl | hregistered
        · rfl
        · -- the first under the key asked for the same as this call
          have hjournal := (Reaches.journal_grows hE hsound' hc.reaches).subset hregistered
          exact alone_eq_of_key_eq ht hplain hother hadmission hadmission'
            (congrArg Prod.snd hslot).symm (hno _ hjournal _ hanswered)
      rw [halone, Job.alone_eq_of_isAnsweredBy hanswer]
      exact hgiven _ (hns.subset hmem)

/-- Whatever plain calls are made and however they overlap, at rest every call that was made before
closing has the outcome that it would have with a request of its own, unless it was cancelled. -/
theorem sharing_is_transparent (ht : IsSteady transport) (cancels : ℕ → Prop)
    (headers : List (Text × Text)) (clearable : Bool) (name : Text) :
    (∀ actions, (∀ a ∈ actions, a.All Call.IsPlain) →
      (Surroundings.steady transport cancels).Allows actions →
        ReachesBy Call.IsPlain (.steady transport cancels) (start headers clearable name)
          ((start headers clearable name).run actions)) ∧
    ∀ e, ReachesBy Call.IsPlain (.steady transport cancels) (start headers clearable name) e →
      e.isResting = true → e.HasNoCollision →
        (e.queue.closed = false → ∀ n < e.tickets.length, ∃ call,
          GotFuture Call.IsPlain (.steady transport cancels) (start headers clearable name) call n
            e) ∧
        ∀ call n,
          GotFuture Call.IsPlain (.steady transport cancels) (start headers clearable name) call n
            e →
          ∃ outcome, call.alone headers transport = some outcome ∧
            e.HasOutcome (.steady transport cancels) outcome n := by
  refine ⟨?_, ?_⟩
  · intro actions hplain hallows
    exact reachesBy_run hplain hallows (followsWith_start headers clearable name)
  · intro e he hrest hno
    refine ⟨fun hq n hn => exists_gotFuture he rfl hq hn, fun call n hgot => ?_⟩
    exact exists_alone_eq ht hrest hno hgot

/-- Whoever asks for the customer gets no answer; the offerings are refused. -/
def answerByPath (s : Sent) : Reply :=
  if s.path = "/subscribers/u".toText then .raised ⟨"TimeoutError".toText, []⟩
  else .ofResponse ⟨.int 403, .map [], none⟩

/-- Two callers share a request; the first asks for offerings once it is done. -/
def sharedThenMore : List Action :=
  .run (.call "first".toText (.getCustomerInfo (.text "u".toText))
      (.call "more".toText (.getOfferings (.text "u".toText)) .nil .nil)
      (.call "second".toText (.getCustomerInfo (.text "u".toText)) .nil .nil)) ::
    List.replicate 11 (.work answerByPath)

theorem transparent_for_shared_then_more :
    let E := Surroundings.steady answerByPath fun _ => False
    let e := (start [] false "requests".toText).run sharedThenMore
    IsSteady answerByPath ∧ (∀ a ∈ sharedThenMore, a.All Call.IsPlain) ∧
      E.Allows sharedThenMore ∧ e.isResting = true ∧ e.HasNoCollision ∧ e.tickets.length = 3 ∧
      e.requests.length = 2 ∧ ∀ n < 3, ∃ call outcome,
        GotFuture Call.IsPlain E (start [] false "requests".toText) call n e ∧
        call.alone [] answerByPath = some outcome ∧ e.state? n = some (.finished outcome) := by
  have hsteady : IsSteady answerByPath := by
    refine ⟨fun s => ?_, fun h => by rw [answerByPath, h.path, ← answerByPath]⟩
    unfold answerByPath
    split <;> exact ⟨_, rfl⟩
  have huser : (Value.text "u".toText).IsIdentifier := ⟨_, rfl, Text.isClean_toText "u"⟩
  have hplain : ∀ a ∈ sharedThenMore, a.All Call.IsPlain := by
    simp [sharedThenMore, Action.All, Script.All, Call.IsPlain, huser]
  have hallows : (Surroundings.steady answerByPath fun _ => False).Allows sharedThenMore := by
    refine ⟨fun ht s => ?_, by simp [sharedThenMore]⟩
    simp only [sharedThenMore, List.replicate, List.mem_cons, reduceCtorEq, Action.work.injEq,
      List.not_mem_nil, or_false, false_or, or_self] at ht
    rw [ht]
    rfl
  have hrest : ((start [] false "requests".toText).run sharedThenMore).isResting = true := by decide
  have hlength : ((start [] false "requests".toText).run sharedThenMore).tickets.length = 3 := by
    decide
  have hopen : ((start [] false "requests".toText).run sharedThenMore).queue.closed = false := by
    decide
  have hno : ((start [] false "requests".toText).run sharedThenMore).HasNoCollision :=
    hasNoCollision_of_get (by decide)
  have hall := sharing_is_transparent hsteady (fun _ => False) [] false "requests".toText
  obtain ⟨hgot, houtcome⟩ := hall.2 _ (hall.1 sharedThenMore hplain hallows) hrest hno
  refine ⟨hsteady, hplain, hallows, hrest, hno, hlength, by decide, fun n hn => ?_⟩
  obtain ⟨call, hcall⟩ := hgot hopen n (hlength ▸ hn)
  obtain ⟨outcome, halone, hfinished | ⟨-, -, -, hcancelled⟩⟩ := houtcome call n hcall
  · exact ⟨call, outcome, hcall, halone, hfinished⟩
  · exact hcancelled.elim

end Backend

end SubscriptionClient
