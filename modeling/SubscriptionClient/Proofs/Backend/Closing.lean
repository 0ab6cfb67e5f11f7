import SubscriptionClient.Proofs.Backend.Outcomes
import SubscriptionClient.Proofs.Backend.Progress

/-!
# Closing in good order

Closing takes nothing away. Every job that was accepted before is still begun with in its turn and
answered to its whole batch, and the worker gets there whatever callers do meanwhile. A later call
either joins such a job or is refused without a trace in the registries and the queue, so no request
is ever sent for it.
-/

namespace SubscriptionClient

def Entry.answered? : Entry → Option Job
  | answered job _ _ => some job
  | _ => none

namespace Backend

variable {E : Surroundings} {headers : List (Text × Text)} {clearable : Bool} {name : Text}
  {b c : Backend} {job : Job} {journal : List Entry}

def shutDown (b : Backend) : Backend := { b with queue := b.queue.close }

def answered (b : Backend) : List Job := b.journal.filterMap Entry.answered?

theorem perform_close (rest : Script) (b : Backend) :
    b.perform (.close rest) = b.shutDown.perform rest := rfl

theorem closed_shutDown (b : Backend) : b.shutDown.queue.closed = true :=
  WorkQueue.closed_close b.queue

theorem accepted_shutDown (b : Backend) : b.shutDown.accepted = b.accepted := rfl

theorem reaches_shutDown (E : Surroundings) (b : Backend) : Reaches E b b.shutDown := .step .closed

/-! ## Accepted jobs are answered or outstanding -/

theorem SharingStep.accounted {registries : Family → Registry ℕ} {jobs : List Job}
    (hs : SharingStep b registries jobs journal) (h : b.accepted = b.answered ++ b.outstanding) :
    journal.filterMap Entry.accepted? = journal.filterMap Entry.answered? ++ jobs := by
  rw [Backend.accepted, Backend.answered] at h
  cases hs with
  | kept => exact h
  | joined | refused =>
    simpa [List.filterMap_append, List.filterMap_cons, Entry.accepted?, Entry.answered?] using h
  | accepted =>
    simp [List.filterMap_append, List.filterMap_cons, Entry.accepted?, Entry.answered?, h]
  | answered ho =>
    simp [List.filterMap_append, List.filterMap_cons, Entry.accepted?, Entry.answered?, h, ho]

theorem accepted_eq_of_reaches (hE : E.IsComplete)
    (h : Reaches E (start headers clearable name) b) :
    b.accepted = b.answered ++ b.outstanding := by
  induction h with
  | refl => rfl
  | tail hb hs ih =>
    have hsound := isSound_of_reaches hE hb
    exact (hs.sharing hE hsound.orderly hsound.matched).accounted ih

theorem accepted_eq_of_closed (ho : b.IsOrderly) (hq : b.queue.closed = true)
    (h : Reaches E b c) : c.accepted = b.accepted := by
  have hall : c.IsOrderly ∧ c.accepted = b.accepted := by
    induction h with
    | refl => exact ⟨ho, rfl⟩
    | @tail c d hc hs ih =>
      refine ⟨ih.1.step hs, Eq.trans ?_ ih.2⟩
      cases hs.order ih.1 with
      | kept ha | sent _ _ ha | unsent _ ha => exact ha
      | accepted _ hopen => simp [Reaches.closed hc hq] at hopen
  exact hall.2

/-! ## At rest -/

/-- Whether exactly these jobs were answered, in this order, and everyone has an outcome. -/
structure HasServed (E : Surroundings) (headers : List (Text × Text)) (jobs : List Job)
    (b : Backend) : Prop where
  answered : b.answered = jobs
  requests : b.requests = jobs.filterMap (Job.request? headers)
  outcome {job : Job} {batch : List ℕ} {r : Response} : .answered job batch r ∈ b.journal →
    job.IsAnsweredBy E headers r ∧ ∀ n ∈ batch, b.HasOutcome E (job.operation.handle r) n
  done : ∀ t ∈ b.tickets, t.future.isDone = true
  entries (f : Family) : (b.registries f).entries = []

theorem hasServed_of_isResting (hE : E.IsComplete)
    (h : Reaches E (start headers clearable name) b) (hr : b.isResting = true) :
    b.HasServed E headers b.accepted := by
  have hsound := isSound_of_reaches hE h
  have hnone := outstanding_of_isResting hsound.orderly hr
  -- nothing is outstanding, so nothing is left to begin with
  obtain ⟨begun, haccepted, hrequests⟩ := (isInOrder_of_reaches h).begun
  obtain ⟨-, hunbegun⟩ := inFlight_and_unbegun_eq_nil hnone
  refine ⟨?_, ?_, ?_, fun _ => isDone_of_isResting hsound hr,
    waitingIn_eq_nil (batch?_of_isResting hsound hr)⟩
  · rw [accepted_eq_of_reaches hE h, hnone, List.append_nil]
  · rw [haccepted, hunbegun, List.append_nil, hrequests]
  · intro job batch r hmem
    refine ⟨hsound.founded _ hmem, fun n hn => ?_⟩
    exact (hsound.given _ hmem batch _ rfl n hn).hasOutcome hsound.orderly hr

/-! ## Calls after closing -/

theorem exists_issue_of_refused (label : Text) {call : Call}
    (h : call.admission = .dispatch job) (hb : b.batch? job.slot = none)
    (hq : b.queue.closed = true) :
    ∃ c, b.issue label call = (c, .ok b.tickets.length) ∧
      c.state? b.tickets.length = some (.finished (.error (.queueClosed b.queue.name))) ∧
      c.registries = b.registries ∧ c.queue = b.queue ∧ c.stage = b.stage ∧
      c.events = b.events := by
  refine ⟨_, issue_of_dispatch label h (dispatch_of_refused label hb hq), ?_, rfl, rfl, rfl, rfl⟩
  exact state?_eq_some_iff.mpr ⟨_, getElem?_concat_eq_some_iff.mpr (.inr ⟨rfl, rfl⟩), rfl⟩

theorem IsSound.batch?_eq_none (h : b.IsSound E headers name)
    (hnone : ∀ other ∈ b.outstanding, other.slot ≠ job.slot) : b.batch? job.slot = none := by
  cases hb : b.batch? job.slot with
  | none => rfl
  | some batch =>
    obtain ⟨other, hmem, hslot⟩ := List.mem_map.mp ((h.matched.batch_iff job.slot).mp ⟨batch, hb⟩)
    exact (hnone other hmem hslot).elim

theorem IsSound.exists_issue_of_outstanding (h : b.IsSound E headers name) (label : Text)
    {call : Call} (hcall : call.admission = .dispatch job) {first : Job}
    (hfirst : first ∈ b.outstanding) (hslot : first.slot = job.slot) :
    ∃ batch c, b.batch? job.slot = some batch ∧
      b.issue label call = (c, .ok b.tickets.length) ∧ Reaches E b c ∧ c.queue = b.queue ∧
      c.batch? job.slot = some (batch ++ [b.tickets.length]) ∧
      IsOwed first (batch ++ [b.tickets.length]) c.journal := by
  obtain ⟨batch, hb⟩ := (h.matched.batch_iff job.slot).mpr
    (List.mem_map.mpr ⟨first, hfirst, hslot⟩)
  obtain ⟨c, other, hissue, hr, hq, hc, hother, hslot', -, howed⟩ :=
    h.exists_issue_of_joined label hcall hb
  -- the batch waits for the one outstanding job of its family and key
  obtain rfl : other = first := List.inj_on_of_nodup_map h.matched.nodup_slots hother hfirst
    (hslot'.trans hslot.symm)
  exact ⟨batch, c, hb, hissue, hr, hq, hc, howed⟩

/-! ## The main statement -/

/-- What holds in a state `c` after closing in the state `b`. -/
structure ServesAfter (E : Surroundings) (headers : List (Text × Text)) (name : Text)
    (b c : Backend) : Prop where
  promises : c.KeepsPromises E headers name
  /-- Nothing more is accepted, and what was accepted is answered or outstanding. -/
  accepted : c.accepted = b.accepted
  answered : b.accepted = c.answered ++ c.outstanding
  /-- Requests are only sent for what was accepted, in its order. -/
  begun : ∃ begun, b.accepted = begun ++ c.unbegun ∧
    c.requests = begun.filterMap (Job.request? headers)
  rest : c.isResting = true → c.HasServed E headers b.accepted
  /-- The worker comes to rest if its turn comes again and again. -/
  progress {schedule : ℕ → Action} : (∀ i, E.Allows [schedule i]) →
    (∀ i, ∃ j, i ≤ j ∧ (schedule j).isWork = true) →
      ∃ i, ∀ j, i ≤ j → (c.after schedule j).isResting = true ∧
        (c.after schedule j).HasServed E headers b.accepted
  refused (label : Text) {call : Call} {job : Job} : call.admission = .dispatch job →
    (∀ other ∈ c.outstanding, other.slot ≠ job.slot) →
      ∃ d, c.issue label call = (d, .ok c.tickets.length) ∧
        d.state? c.tickets.length = some (.finished (.error (.queueClosed name))) ∧
        d.registries = c.registries ∧ d.queue = c.queue ∧ d.stage = c.stage ∧
        d.events = c.events
  joined (label : Text) {call : Call} {job first : Job} : call.admission = .dispatch job →
    first ∈ c.outstanding → first.slot = job.slot →
      ∃ batch d, c.batch? job.slot = some batch ∧
        c.issue label call = (d, .ok c.tickets.length) ∧ d.queue = c.queue ∧
        d.batch? job.slot = some (batch ++ [c.tickets.length]) ∧
        ∀ e, Reaches E d e → e.isResting = true →
          ∃ whole r, .answered first whole r ∈ e.journal ∧ batch ++ [c.tickets.length] <+: whole ∧
            first.IsAnsweredBy E headers r ∧
            ∀ n ∈ whole, e.HasOutcome E (first.operation.handle r) n

theorem allows_range {schedule : ℕ → Action} (h : ∀ i, E.Allows [schedule i]) (i : ℕ) :
    E.Allows ((List.range i).map schedule) where
  replies := by
    intro t ht
    obtain ⟨j, -, hj⟩ := List.mem_map.mp ht
    exact (h j).replies (List.mem_singleton.mpr hj.symm)
  cancels := by
    intro n hn
    obtain ⟨j, -, hj⟩ := List.mem_map.mp hn
    exact (h j).cancels (List.mem_singleton.mpr hj.symm)

theorem servesAfter_of_reaches (hE : E.IsComplete)
    (hb : Reaches E (start headers clearable name) b) (hc : Reaches E b.shutDown c) :
    b.ServesAfter E headers name c := by
  have hshut : Reaches E (start headers clearable name) b.shutDown :=
    hb.trans (reaches_shutDown E b)
  have hreach : Reaches E (start headers clearable name) c := hshut.trans hc
  have hsound := isSound_of_reaches hE hreach
  have hclosed : c.queue.closed = true := Reaches.closed hc b.closed_shutDown
  have haccepted {d : Backend} (hd : Reaches E b.shutDown d) : d.accepted = b.shutDown.accepted :=
    accepted_eq_of_closed (Reaches.isOrderly hshut) b.closed_shutDown hd
  rw [accepted_shutDown] at haccepted
  refine
    { promises := hsound.keepsPromises
      accepted := haccepted hc
      answered := haccepted hc ▸ accepted_eq_of_reaches hE hreach
      begun := haccepted hc ▸ (isInOrder_of_reaches hreach).begun
      rest := fun hr => haccepted hc ▸ hasServed_of_isResting hE hreach hr
      progress := ?_
      refused := ?_
      joined := ?_ }
  · intro schedule hallows hfair
    obtain ⟨i, hi⟩ := eventually_isResting hclosed hfair
    refine ⟨i, fun j hj => ⟨hi j hj, ?_⟩⟩
    have hafter : Reaches E c (c.after schedule j) := reaches_run (allows_range hallows j) c
    rw [← haccepted (hc.trans hafter)]
    exact hasServed_of_isResting hE (hreach.trans hafter) (hi j hj)
  · intro label call job hcall hnone
    rw [← hsound.name_eq]
    exact exists_issue_of_refused label hcall (hsound.batch?_eq_none hnone) hclosed
  · intro label call job first hcall hfirst hslot
    obtain ⟨batch, d, hbatch, hissue, hd, hq, hbatch', howed⟩ :=
      hsound.exists_issue_of_outstanding label hcall hfirst hslot
    refine ⟨batch, d, hbatch, hissue, hq, hbatch', fun e he hr => ?_⟩
    exact howed.exists_answered hE (isSound_of_reaches hE (hreach.trans hd)) he hr

/-- Wherever the queue is closed in whatever run, what was accepted is served, what comes later is
shared or refused. -/
theorem closing_is_orderly (hE : E.IsComplete) (headers : List (Text × Text)) (clearable : Bool)
    (name : Text) :
    (∀ actions, E.Allows actions →
      Reaches E (start headers clearable name) ((start headers clearable name).run actions)) ∧
    ∀ b, Reaches E (start headers clearable name) b →
      (∀ rest, b.perform (.close rest) = b.shutDown.perform rest) ∧
        ∀ c, Reaches E b.shutDown c → b.ServesAfter E headers name c :=
  ⟨fun _ ha => reaches_run ha _,
    fun b hb => ⟨fun rest => perform_close rest b, fun _ hc => servesAfter_of_reaches hE hb hc⟩⟩

/-- After the closing one caller joins the request under way, another is refused, and the worker
goes on to the end. -/
def afterClosing : List Action :=
  .run (.call "late".toText (.getCustomerInfo (.text "u".toText)) .nil
      (.call "refused".toText (.getOfferings (.text "u".toText)) .nil .nil)) ::
    List.replicate 7 (.work fun _ => .raised ⟨"TimeoutError".toText, []⟩)

theorem serves_after_two_callers :
    let b := (start [] false "requests".toText).run twoCallers
    anySurroundings.IsComplete ∧
      b.ServesAfter anySurroundings [] "requests".toText (b.shutDown.run afterClosing) ∧
      (b.shutDown.run afterClosing).isResting = true ∧
      (b.shutDown.run afterClosing).requests.map (·.path) = ["/subscribers/u".toText] := by
  have hE : anySurroundings.IsComplete := fun _ _ h => h
  have hA : anySurroundings.Allows twoCallers ∧ anySurroundings.Allows afterClosing := by
    refine ⟨⟨?_, fun _ => trivial⟩, ⟨?_, fun _ => trivial⟩⟩
    all_goals
      intro t ht s
      simp only [twoCallers, afterClosing, List.replicate, List.mem_cons, reduceCtorEq,
        Action.work.injEq, List.not_mem_nil, or_false, false_or, or_self] at ht
      subst ht
      exact ⟨_, rfl⟩
  have hall := closing_is_orderly hE [] false "requests".toText
  have hserves := (hall.2 _ (hall.1 twoCallers hA.1)).2 _ (reaches_run hA.2 _)
  exact ⟨hE, hserves, by decide, by decide⟩

end Backend

end SubscriptionClient
