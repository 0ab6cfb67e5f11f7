import SubscriptionClient.Proofs.Backend.Sharing

/-!
# The order of requests

The accepted jobs are the dispatches that were first under their key while the queue was open, in
the order of their calls. The worker begins with them in that order, and the request of a job, if
there is one, is sent when the worker begins with it. Replies play no part in this: it holds with
malformed ones too.
-/

namespace SubscriptionClient

/-- What is sent for a job, unless its body cannot be built. -/
def Job.request? (headers : List (Text × Text)) (job : Job) : Option Sent :=
  (job.operation.exchange.prepare headers).toOption

theorem Job.method_and_path {headers : List (Text × Text)} {job : Job} {sent : Sent}
    (h : job.request? headers = some sent) :
    sent.method = job.operation.method ∧ sent.path = job.operation.path := by
  unfold Job.request? Exchange.prepare at h
  split at h
  · cases h
    exact ⟨rfl, rfl⟩
  · split at h
    · cases h
      exact ⟨rfl, rfl⟩
    · cases h

def Entry.accepted? : Entry → Option Job
  | accepted job => some job
  | _ => none

namespace Backend

variable {E : Surroundings} {headers : List (Text × Text)} {clearable : Bool} {name : Text}
  {b c : Backend} {job : Job}

def accepted (b : Backend) : List Job := b.journal.filterMap Entry.accepted?

/-- The worker's job, as long as nothing has been done for it. -/
def untouched (b : Backend) : List Job :=
  match b.queue.worker, b.stage with
  | .busy job, .fresh => [job]
  | _, _ => []

/-- The accepted jobs that the worker has not begun with. -/
def unbegun (b : Backend) : List Job := b.untouched ++ b.queue.waitingJobs

/-- The job that a call makes the queue accept: it asks for a request, nobody waits under its key,
and the queue is open. -/
def submission? (c : Call) (b : Backend) : Option Job :=
  match c.admission with
  | .dispatch job => if b.batch? job.slot = none ∧ b.queue.closed = false then some job else none
  | _ => none

/-! ## Jobs to begin with -/

theorem untouched_of_not_busy (h : ∀ job, b.queue.worker ≠ .busy job) : b.untouched = [] := by
  unfold untouched
  split
  · rename_i job hw _
    exact (h job hw).elim
  · rfl

theorem untouched_of_begun (h : b.stage ≠ .fresh) : b.untouched = [] := by
  unfold untouched
  split
  · rename_i hs
    exact (h hs).elim
  · rfl

theorem unbegun_of_not_busy (h : ∀ job, b.queue.worker ≠ .busy job) :
    b.unbegun = b.queue.waitingJobs := by
  rw [unbegun, untouched_of_not_busy h, List.nil_append]

theorem unbegun_of_begun (h : b.stage ≠ .fresh) : b.unbegun = b.queue.waitingJobs := by
  rw [unbegun, untouched_of_begun h, List.nil_append]

theorem unbegun_of_fresh (hw : b.queue.worker = .busy job) (hs : b.stage = .fresh) :
    b.unbegun = job :: b.queue.waitingJobs := by
  simp [unbegun, untouched, hw, hs]

theorem untouched_submit {queue : WorkQueue Job} (h : b.queue.submit job = .ok queue)
    (hc : c.queue = queue) (hs : c.stage = b.stage) : c.untouched = b.untouched := by
  by_cases hfresh : b.stage = .fresh
  · by_cases hb : ∃ j, b.queue.worker = .busy j
    · obtain ⟨j, hj⟩ := hb
      have hj' := (WorkQueue.busy_submit_iff h).mpr hj
      simp [untouched, hj, hfresh, hs, hc, hj']
    · have hb' : ∀ j, b.queue.worker ≠ .busy j := fun j hj => hb ⟨j, hj⟩
      rw [untouched_of_not_busy hb', untouched_of_not_busy]
      intro j hj
      exact hb' j ((WorkQueue.busy_submit_iff h).mp (hc ▸ hj))
  · rw [untouched_of_begun hfresh, untouched_of_begun (hs ▸ hfresh)]

theorem unbegun_submit {queue : WorkQueue Job} (h : b.queue.submit job = .ok queue)
    (hc : c.queue = queue) (hs : c.stage = b.stage) : c.unbegun = b.unbegun ++ [job] := by
  rw [unbegun, unbegun, untouched_submit h hc hs, hc, WorkQueue.waitingJobs_submit h,
    List.append_assoc]

theorem unbegun_close (b : Backend) :
    ({ b with queue := b.queue.close } : Backend).unbegun = b.unbegun := by
  simp [unbegun, untouched, WorkQueue.worker_close]

theorem unbegun_take (h : b.IsOrderly) (hw : ∀ job, b.queue.worker ≠ .busy job) :
    ({ b with queue := b.queue.take } : Backend).unbegun = b.unbegun := by
  have hs := h.fresh hw
  rw [unbegun_of_not_busy hw]
  unfold WorkQueue.take
  split
  · rename_i a rest _ hitems
    simp [unbegun, untouched, hs, WorkQueue.waitingJobs, hitems, QueueItem.job?]
  · rename_i rest _ hitems
    simp [unbegun, untouched, WorkQueue.waitingJobs, hitems, QueueItem.job?, List.filterMap_cons]
  · exact unbegun_of_not_busy hw

theorem unbegun_finish (b : Backend) : b.finish.unbegun = b.queue.waitingJobs := by
  have hw : ∀ job, b.finish.queue.worker ≠ .busy job := by
    intro job
    unfold finish WorkQueue.finish
    cases hw : b.queue.worker <;> simp [hw]
  rw [unbegun_of_not_busy hw]
  exact WorkQueue.waitingJobs_finish b.queue

theorem outstanding_eq_append (b : Backend) : b.outstanding = b.inFlight ++ b.unbegun := by
  rw [outstanding, unbegun, ← List.append_assoc]
  congr 1
  unfold unanswered inFlight untouched
  cases b.queue.worker <;> cases b.stage <;> rfl

theorem inFlight_and_unbegun_eq_nil (h : b.outstanding = []) :
    b.inFlight = [] ∧ b.unbegun = [] := by
  rwa [outstanding_eq_append, List.append_eq_nil_iff] at h

/-! ## Answers -/

theorem requests_answer (job : Job) (r : Response) (b : Backend) :
    (b.answer job r).requests = b.requests := by
  unfold answer
  dsimp only
  split <;> rfl

theorem accepted_answer (job : Job) (r : Response) (b : Backend) :
    (b.answer job r).accepted = b.accepted := by
  unfold answer
  dsimp only
  split
  · simp [accepted, record, setRegistry, Entry.accepted?]
  · rfl

theorem unbegun_answer (job : Job) (r : Response) (b : Backend) :
    (b.answer job r).unbegun = b.queue.waitingJobs := by
  unfold answer
  dsimp only
  split
  · exact unbegun_of_begun (by simp)
  · exact unbegun_finish b

/-! ## What a step may do -/

theorem mem_inFlight_iff :
    job ∈ b.inFlight ↔ b.queue.worker = .busy job ∧ ∃ s, b.stage = .awaiting s := by
  unfold inFlight
  split
  · rename_i other s hw hs
    simp [hw, hs, eq_comm]
  · rename_i hne
    simp only [List.not_mem_nil, false_iff]
    rintro ⟨hw, s, hs⟩
    exact hne job s hw hs

theorem inFlight_eq_nil (h : ∀ s, b.stage ≠ .awaiting s) : b.inFlight = [] := by
  apply List.eq_nil_iff_forall_not_mem.mpr
  intro job hmem
  obtain ⟨-, s, hs⟩ := mem_inFlight_iff.mp hmem
  exact h s hs

theorem inFlight_submit {queue : WorkQueue Job} (h : b.queue.submit job = .ok queue)
    (hc : c.queue = queue) (hs : c.stage = b.stage) : c.inFlight ⊆ b.inFlight := by
  intro other hmem
  obtain ⟨hw, hstage⟩ := mem_inFlight_iff.mp hmem
  exact mem_inFlight_iff.mpr ⟨(WorkQueue.busy_submit_iff h).mp (hc ▸ hw), hs ▸ hstage⟩

theorem inFlight_answer (job : Job) (r : Response) (b : Backend) :
    (b.answer job r).inFlight = [] := by
  apply inFlight_eq_nil
  intro s
  rcases answer_queue_and_stage job r b with ⟨-, outcome, ns, h⟩ | ⟨-, h⟩ <;> simp [h]

/-- What a step may do with the accepted jobs, those to begin with, the requests, and the job whose
request is under way. -/
inductive OrderStep (b c : Backend) : Prop where
  | kept (ha : c.accepted = b.accepted) (hu : c.unbegun = b.unbegun)
    (hr : c.requests = b.requests) (hf : c.inFlight ⊆ b.inFlight)
  | accepted {label : Text} {job : Job} (hb : b.batch? job.slot = none)
    (hq : b.queue.closed = false) (hd : b.dispatch label job = (c, .ok b.tickets.length))
    (ha : c.accepted = b.accepted ++ [job]) (hu : c.unbegun = b.unbegun ++ [job])
    (hr : c.requests = b.requests) (hf : c.inFlight ⊆ b.inFlight)
  | sent {job : Job} {s : Sent} (hs : job.request? b.headers = some s) (hb : b.inFlight = [])
    (ha : c.accepted = b.accepted) (hu : b.unbegun = job :: c.unbegun)
    (hr : c.requests = b.requests ++ [s]) (hf : c.inFlight = [job])
  | unsent {job : Job} (hs : job.request? b.headers = none)
    (ha : c.accepted = b.accepted) (hu : b.unbegun = job :: c.unbegun)
    (hr : c.requests = b.requests) (hf : c.inFlight = [])

theorem accepted_enrol (label : Text) (job : Job) (b : Backend) :
    (b.enrol label job).1.accepted = b.accepted := by
  simp [accepted, enrol, handOut, record, setRegistry, Entry.accepted?]

theorem accepted_refuse (label : Text) (job : Job) (b : Backend) :
    (b.refuse label job).accepted = b.accepted := by
  simp [accepted, refuse, Entry.accepted?]

theorem accepted_record_accepted (label : Text) (job : Job) (queue : WorkQueue Job) (b : Backend) :
    accepted ({ (b.enrol label job).1 with queue }.record (.accepted job)) =
      b.accepted ++ [job] := by
  rw [← accepted_enrol label job b]
  simp [accepted, record, Entry.accepted?]

theorem orderStep_of_begun (hb : b.stage ≠ .fresh) (ha : c.accepted = b.accepted)
    (hr : c.requests = b.requests) (hc : c.unbegun = b.queue.waitingJobs)
    (hf : ∀ s, c.stage ≠ .awaiting s) : OrderStep b c := by
  refine .kept ha (hc.trans (unbegun_of_begun hb).symm) hr ?_
  rw [inFlight_eq_nil hf]
  exact List.nil_subset _

theorem Step.order (ho : b.IsOrderly) (hs : Step E b c) : OrderStep b c := by
  cases hs with
  | raised | cleared => exact .kept rfl rfl (requests_note _ (by simp) b) (List.Subset.refl _)
  | settled | cancelled => exact .kept rfl rfl rfl (List.Subset.refl _)
  | joined label hb => exact .kept (accepted_enrol label _ b) rfl rfl (List.Subset.refl _)
  | accepted label hb hq =>
    exact .accepted hb (WorkQueue.closed_eq_false_of_submit hq) (dispatch_of_accepted label hb hq)
      (accepted_record_accepted label _ _ b) (unbegun_submit hq rfl rfl) rfl
      (inFlight_submit hq rfl rfl)
  | refused label hb hq => exact .kept (accepted_refuse label _ b) rfl rfl (List.Subset.refl _)
  | followed hf =>
    obtain ⟨t, future, -, -, rfl⟩ := exists_of_followedBy? hf
    exact .kept rfl rfl rfl (List.Subset.refl _)
  | reported n =>
    have hr := requests_noteDone n b
    obtain ⟨events, he⟩ := exists_noteDone_eq n b
    rw [he] at hr ⊢
    exact .kept rfl rfl hr (List.Subset.refl _)
  | closed =>
    refine .kept rfl (unbegun_close b) rfl ?_
    simp [inFlight, WorkQueue.worker_close]
  | taken hb =>
    refine .kept rfl (unbegun_take ho hb) rfl ?_
    rw [inFlight_eq_nil (by simp [ho.fresh hb])]
    exact List.nil_subset _
  | @sent job s hw hs h =>
    have hrequest : job.request? b.headers = some s := by rw [Job.request?, h]; rfl
    have hunbegun : unbegun { b.note (.sent s) with stage := .awaiting s } = b.queue.waitingJobs :=
      unbegun_of_begun (by simp)
    refine .sent hrequest (inFlight_eq_nil (by simp [hs])) rfl ?_ (requests_note_sent s b) ?_
    · rw [hunbegun, unbegun_of_fresh hw hs]
    · simp [inFlight, note, hw]
  | @unsent job r hw hs h =>
    have hrequest : job.request? b.headers = none := by rw [Job.request?, h]; rfl
    refine .unsent hrequest (accepted_answer job r b) ?_ (requests_answer job r b)
      (inFlight_answer job r b)
    rw [unbegun_answer, unbegun_of_fresh hw hs]
  | replied hw hs hr h =>
    refine .kept (accepted_answer _ _ b) ?_ (requests_answer _ _ b) ?_
    · rw [unbegun_answer, unbegun_of_begun (by simp [hs])]
    · rw [inFlight_answer]
      exact List.nil_subset _
  | abandoned hw hs hr h =>
    exact orderStep_of_begun (by simp [hs]) rfl rfl (unbegun_finish b) (by simp [abandon, finish])
  | delivered hw hs ht h =>
    exact orderStep_of_begun (by simp [hs]) rfl rfl (unbegun_of_begun (by simp [setFuture]))
      (by simp [setFuture])
  | passedOver hw hs h =>
    exact orderStep_of_begun (by simp [hs]) rfl rfl (unbegun_of_begun (by simp)) (by simp)
  | finished hw hs =>
    exact orderStep_of_begun (by simp [hs]) rfl rfl (unbegun_finish b) (by simp [finish])

/-! ## The invariant -/

/-- The worker begins with the accepted jobs in their order, each once, and sends their requests. -/
structure IsInOrder (headers : List (Text × Text)) (b : Backend) : Prop where
  begun : ∃ begun, b.accepted = begun ++ b.unbegun ∧
    b.requests = begun.filterMap (Job.request? headers)
  /-- The request under way is the last one. -/
  inFlight {job : Job} : job ∈ b.inFlight →
    ∃ s, job.request? headers = some s ∧ b.requests.getLast? = some s

theorem isInOrder_start (headers : List (Text × Text)) (clearable : Bool) (name : Text) :
    (start headers clearable name).IsInOrder headers where
  begun := ⟨[], rfl, rfl⟩
  inFlight := nofun

theorem IsInOrder.step (h : b.IsInOrder b.headers) (hs : OrderStep b c) :
    c.IsInOrder b.headers := by
  obtain ⟨begun, haccepted, hrequests⟩ := h.begun
  cases hs with
  | kept ha hu hr hf =>
    refine ⟨⟨begun, by rw [ha, hu, haccepted], by rw [hr, hrequests]⟩, fun hmem => ?_⟩
    rw [hr]
    exact h.inFlight (hf hmem)
  | accepted hb hq hd ha hu hr hf =>
    refine ⟨⟨begun, ?_, by rw [hr, hrequests]⟩, fun hmem => ?_⟩
    · rw [ha, hu, haccepted, List.append_assoc]
    · rw [hr]
      exact h.inFlight (hf hmem)
  | @sent job s hs hb ha hu hr hf =>
    refine ⟨⟨begun ++ [job], ?_, ?_⟩, ?_⟩
    · rw [ha, haccepted, hu, List.append_assoc, List.singleton_append]
    · rw [hr, hrequests, List.filterMap_append, List.filterMap_cons_some hs, List.filterMap_nil]
    · intro other hmem
      rw [hf] at hmem
      obtain rfl := List.mem_singleton.mp hmem
      exact ⟨s, hs, by rw [hr, List.getLast?_concat]⟩
  | @unsent job hs ha hu hr hf =>
    refine ⟨⟨begun ++ [job], ?_, ?_⟩, by simp [hf]⟩
    · rw [ha, haccepted, hu, List.append_assoc, List.singleton_append]
    · rw [hr, hrequests, List.filterMap_append, List.filterMap_cons_none hs, List.filterMap_nil,
        List.append_nil]

theorem Reaches.isOrderly (h : Reaches E (start headers clearable name) b) : b.IsOrderly := by
  induction h with
  | refl => exact isOrderly_start headers clearable name
  | tail _ hs ih => exact ih.step hs

theorem closed_answer (job : Job) (r : Response) (b : Backend) :
    (b.answer job r).queue.closed = b.queue.closed := by
  rcases answer_queue_and_stage job r b with ⟨hq, -⟩ | ⟨hq, -⟩
  · rw [hq]
  · rw [hq, WorkQueue.closed_finish]

theorem Step.closed_of_closed (hs : Step E b c) (hq : b.queue.closed = true) :
    c.queue.closed = true := by
  cases hs with
  | accepted label hb h => simp [WorkQueue.submit_of_closed hq] at h
  | followed hf =>
    obtain ⟨t, future, -, -, rfl⟩ := exists_of_followedBy? hf
    exact hq
  | reported n =>
    obtain ⟨events, he⟩ := exists_noteDone_eq n b
    rw [he]
    exact hq
  | closed => exact WorkQueue.closed_close b.queue
  | taken => exact (WorkQueue.closed_take b.queue).trans hq
  | unsent | replied => exact (closed_answer _ _ b).trans hq
  | abandoned | finished => exact (WorkQueue.closed_finish b.queue).trans hq
  | _ => exact hq

theorem Reaches.closed (h : Reaches E b c) (hq : b.queue.closed = true) :
    c.queue.closed = true := by
  induction h with
  | refl => exact hq
  | tail _ hs ih => exact hs.closed_of_closed ih

theorem Reaches.headers_eq (h : Reaches E b c) : c.headers = b.headers := by
  induction h with
  | refl => rfl
  | tail _ hs ih => exact hs.headers_eq.trans ih

theorem isInOrder_of_reaches (h : Reaches E (start headers clearable name) b) :
    b.IsInOrder headers := by
  induction h with
  | refl => exact isInOrder_start headers clearable name
  | @tail b c hb hs ih =>
    obtain rfl : b.headers = headers := Reaches.headers_eq hb
    exact ih.step (hs.order (Reaches.isOrderly hb))

/-! ## Calls -/

theorem submission?_of_dispatch {call : Call} (h : call.admission = .dispatch job) :
    b.submission? call =
      if b.batch? job.slot = none ∧ b.queue.closed = false then some job else none := by
  rw [submission?, h]

/-- A call sends nothing itself, and makes the queue accept at most one job. -/
theorem requests_and_accepted_issue (label : Text) (call : Call) (b : Backend) :
    (b.issue label call).1.requests = b.requests ∧
      (b.issue label call).1.accepted = b.accepted ++ (b.submission? call).toList := by
  cases h : call.admission with
  | raised fault =>
    simp only [issue, submission?, h]
    exact ⟨requests_note _ (by simp) b, (List.append_nil _).symm⟩
  | settled outcome =>
    simp only [issue, submission?, h]
    exact ⟨rfl, (List.append_nil _).symm⟩
  | dispatch job =>
    rw [submission?_of_dispatch h]
    cases hb : (b.registries job.operation.family).batch? job.key with
    | some batch =>
      have hnone : b.batch? job.slot ≠ none := by simp [batch?, Job.slot, hb]
      rw [issue_of_dispatch label h (dispatch_of_joined label hb), if_neg (hnone ·.1)]
      exact ⟨rfl, (accepted_enrol label job b).trans (List.append_nil _).symm⟩
    | none =>
      have hnone : b.batch? job.slot = none := hb
      cases hq : b.queue.closed with
      | true =>
        rw [issue_of_dispatch label h (dispatch_of_refused label hb hq), if_neg (by simp)]
        exact ⟨rfl, (accepted_refuse label job b).trans (List.append_nil _).symm⟩
      | false =>
        have hsubmit := WorkQueue.submit_of_open hq job
        rw [issue_of_dispatch label h (dispatch_of_accepted label hb hsubmit),
          if_pos ⟨hnone, rfl⟩]
        exact ⟨rfl, accepted_record_accepted label job _ b⟩

/-! ## The main statement -/

structure SendsInOrder (headers : List (Text × Text)) (b : Backend) : Prop extends
    IsInOrder headers b where
  call (label : Text) (call : Call) : (b.issue label call).1.requests = b.requests ∧
    (b.issue label call).1.accepted = b.accepted ++ (b.submission? call).toList
  /-- Only a dispatch that is the first under its key adds to the accepted jobs. -/
  growth {c : Backend} : Step .unrestricted b c → c.accepted = b.accepted ∨
    ∃ label job, b.batch? job.slot = none ∧ b.queue.closed = false ∧
      b.dispatch label job = (c, .ok b.tickets.length) ∧ c.accepted = b.accepted ++ [job]
  /-- While a request is under way no other is sent. -/
  sending {c : Backend} : Step .unrestricted b c → c.requests = b.requests ∨
    ∃ job s, b.inFlight = [] ∧ c.inFlight = [job] ∧ job.request? headers = some s ∧
      c.requests = b.requests ++ [s]

theorem sendsInOrder_of_reaches (h : Reaches E (start headers clearable name) b) :
    b.SendsInOrder headers where
  toIsInOrder := isInOrder_of_reaches h
  call := fun label call => requests_and_accepted_issue label call b
  growth := by
    intro c hs
    cases hs.order h.isOrderly with
    | kept ha hu hr hf => exact .inl ha
    | accepted hb hq hd ha hu hr hf => exact .inr ⟨_, _, hb, hq, hd, ha⟩
    | sent hs hb ha hu hr hf => exact .inl ha
    | unsent hs ha hu hr hf => exact .inl ha
  sending := by
    intro c hs
    obtain rfl : b.headers = headers := h.headers_eq
    cases hs.order h.isOrderly with
    | kept ha hu hr hf => exact .inl hr
    | accepted hb hq hd ha hu hr hf => exact .inl hr
    | sent hs hb ha hu hr hf => exact .inr ⟨_, _, hb, hf, hs, hr⟩
    | unsent hs ha hu hr hf => exact .inl hr

/-- Whatever callers do and whatever the transport answers, at every moment the requests are those
of a prefix of the accepted jobs, in the order of their calls, without those that have no body. -/
theorem requests_in_issue_order (headers : List (Text × Text)) (clearable : Bool) (name : Text) :
    (∀ actions, Reaches .unrestricted (start headers clearable name)
      ((start headers clearable name).run actions)) ∧
    ∀ b, Reaches .unrestricted (start headers clearable name) b → b.SendsInOrder headers :=
  ⟨fun actions => reaches_run (.unrestricted actions) _, fun _ => sendsInOrder_of_reaches⟩

/-- Two callers ask for the same customer and a third for offerings. The first answer is malformed;
a call for the customer then only joins, and one after the closing is refused. -/
def malformedAnswer : List Action :=
  let ask (user rest) := Script.call "customer".toText (.getCustomerInfo (.text user)) .nil rest
  .run (ask "u".toText (ask "u".toText
      (.call "offerings".toText (.getOfferings (.text "u".toText)) .nil .nil))) ::
    List.replicate 3 (.work fun _ => .nothing) ++
    [.run (ask "u".toText (.close (ask "v".toText .nil)))] ++
    List.replicate 2 (.work fun _ => .nothing)

theorem order_after_malformed_answer :
    let b := (start [] false "requests".toText).run malformedAnswer
    b.SendsInOrder [] ∧ b.requests.map (·.path) =
      ["/subscribers/u".toText, "/subscribers/u/offerings".toText] ∧ b.accepted.length = 2 := by
  have hall := requests_in_issue_order [] false "requests".toText
  exact ⟨hall.2 _ (hall.1 malformedAnswer), by decide, by decide⟩

end Backend

end SubscriptionClient
