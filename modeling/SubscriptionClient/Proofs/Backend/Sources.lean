import SubscriptionClient.Proofs.Backend.InFlight

/-!
# Where outcomes come from

For every answer in the journal exactly one request was sent, unless its body could not be built,
and the requests are sent in the order of the answers. What is refused is refused in the name of the
queue. The journal registers every future that waits for a request once, under its key.
-/

namespace SubscriptionClient

/-- Whether a response answers the request of a job, or stands for a body that could not be
built. -/
def Job.IsAnsweredBy (E : Surroundings) (headers : List (Text × Text)) (r : Response) (job : Job) :
    Prop :=
  job.operation.exchange.prepare headers = .error r ∨
    ∃ s reply, job.operation.exchange.prepare headers = .ok s ∧ E.replies s reply ∧
      reply.response? = .ok r

/-- The request that was sent for the job of an answer. -/
def Entry.request? (headers : List (Text × Text)) : Entry → Option Sent
  | answered job _ _ => match job.operation.exchange.prepare headers with
    | .ok s => some s
    | .error _ => none
  | _ => none

/-- Whether a release has a reason: the queue is closed, or there is a response. -/
def Entry.IsFounded (E : Surroundings) (headers : List (Text × Text)) (name : Text) : Entry → Prop
  | refused _ _ fault => fault = .queueClosed name
  | answered job _ r => job.IsAnsweredBy E headers r
  | registered _ _ _ | accepted _ => True

def Entry.registered? : Entry → Option (Nat × Text)
  | registered n job _ => some (n, job.key)
  | _ => none

/-- The request whose answer the worker awaits. -/
def Stage.request? : Stage → Option Sent
  | awaiting s => some s
  | _ => none

namespace Backend

variable {E : Surroundings} {headers : List (Text × Text)} {name : Text} {b c : Backend} {n : Nat}
  {job : Job}

/-- The tickets of those who wait for a request, with their keys. -/
def enrolled (b : Backend) : List (Nat × Text) :=
  (b.tickets.map Ticket.key).zipIdx.filterMap fun p => p.1.map fun key => (p.2, key)

theorem Step.headers_eq (hs : Step E b c) : c.headers = b.headers := by
  cases hs with
  | followed hf =>
    obtain ⟨t, future, -, -, rfl⟩ := exists_of_followedBy? hf
    rfl
  | reported m =>
    obtain ⟨events, he⟩ := exists_noteDone_eq m b
    rw [he]
  | unsent | replied => exact headers_answer _ _ b
  | _ => rfl

theorem Step.name_eq (hs : Step E b c) : c.queue.name = b.queue.name := by
  cases hs with
  | accepted label hb hq => exact WorkQueue.name_submit hq
  | followed hf =>
    obtain ⟨t, future, -, -, rfl⟩ := exists_of_followedBy? hf
    rfl
  | reported m =>
    obtain ⟨events, he⟩ := exists_noteDone_eq m b
    rw [he]
  | closed => exact WorkQueue.name_close b.queue
  | taken => exact WorkQueue.name_take b.queue
  | unsent | replied => exact name_answer _ _ b
  | abandoned | finished => exact WorkQueue.name_finish b.queue
  | _ => rfl

/-! ## Futures that wait for requests -/

theorem map_key_setFuture (m : Nat) (future : Future (Attempt Outcome) Script) (b : Backend) :
    (b.setFuture m future).tickets.map Ticket.key = b.tickets.map Ticket.key := by
  refine List.ext_getElem? fun i => ?_
  simp only [setFuture, List.getElem?_map, List.getElem?_modify]
  cases b.tickets[i]? with
  | none => rfl
  | some t => by_cases h : m = i <;> simp [h]

theorem enrolled_setFuture (m : Nat) (future : Future (Attempt Outcome) Script) (b : Backend) :
    (b.setFuture m future).enrolled = b.enrolled := by
  rw [enrolled, map_key_setFuture, enrolled]

theorem enrolled_concat {t : Ticket} (ht : c.tickets = b.tickets ++ [t]) :
    c.enrolled =
      b.enrolled ++ (t.key.map fun key => (b.tickets.length, key)).toList := by
  rw [enrolled, ht, List.map_append, List.zipIdx_append, List.filterMap_append]
  cases h : t.key <;> simp [h, enrolled]

theorem enrolled_enrol (label : Text) (job : Job) (b : Backend) :
    (b.enrol label job).1.enrolled = b.enrolled ++ [(b.tickets.length, job.key)] :=
  enrolled_concat (t := ⟨label, some job.key, _⟩) rfl

theorem Step.enrolled_eq (hm : IsMatched b.registries b.outstanding)
    (h : b.enrolled = b.journal.filterMap Entry.registered?) (hs : Step E b c) :
    c.enrolled = c.journal.filterMap Entry.registered? := by
  cases hs with
  | settled label outcome =>
    have hc := enrolled_concat (c := (b.handOut label none (.finished outcome)).1)
      (t := ⟨label, none, ⟨.finished outcome, []⟩⟩) rfl
    exact hc.trans ((List.append_nil _).trans h)
  | joined label hb =>
    rw [journal_enrol_of_joined label hb, List.filterMap_append, ← h]
    exact enrolled_enrol label _ b
  | accepted label hb hq =>
    simp only [record, journal_enrol_of_first label hb, List.filterMap_append, ← h]
    exact (enrolled_enrol label _ b).trans (List.append_nil _).symm
  | @refused label job hb hq =>
    rw [refuse, List.filterMap_append, ← h]
    exact enrolled_concat (t := ⟨label, some job.key, _⟩) rfl
  | followed hf =>
    obtain ⟨t, future, -, -, rfl⟩ := exists_of_followedBy? hf
    rw [enrolled_setFuture]
    exact h
  | reported m =>
    obtain ⟨events, he⟩ := exists_noteDone_eq m b
    rw [he]
    exact h
  | cancelled ht hc => rwa [enrolled_setFuture]
  | delivered hw hs ht hd => rwa [enrolled_setFuture]
  | unsent hw hs | replied hw hs =>
    obtain ⟨batch, registry, hd⟩ := hm.exists_drain?_of_busy hw (by simp [hs])
    rw [answer_of_drain? hd]
    rw [List.filterMap_append]
    exact h.trans (List.append_nil _).symm
  | _ => exact h

/-! ## Requests -/

theorem requests_note (e : Event) (h : ∀ s, e ≠ .sent s) (b : Backend) :
    (b.note e).requests = b.requests := by
  cases e with
  | sent s => exact (h s rfl).elim
  | done | raised | cleared => simp [requests, note]

theorem requests_note_sent (s : Sent) (b : Backend) :
    (b.note (.sent s)).requests = b.requests ++ [s] := by
  simp [requests, note]

theorem requests_noteDone (n : Nat) (b : Backend) : (b.noteDone n).requests = b.requests := by
  unfold noteDone
  split
  · exact requests_note _ (by simp) b
  · rfl

/-- The requests are those of the answers and of the answer that is awaited. -/
structure IsRequested (headers : List (Text × Text)) (b : Backend) : Prop where
  awaiting {s : Sent} {job : Job} : b.stage = .awaiting s → b.queue.worker = .busy job →
    job.operation.exchange.prepare headers = .ok s
  requests_eq :
    b.requests = b.journal.filterMap (Entry.request? headers) ++ b.stage.request?.toList

theorem IsRequested.append (h : IsRequested headers b) (es : List Entry)
    (hes : es.filterMap (Entry.request? headers) = []) (hj : c.journal = b.journal ++ es)
    (hs : c.stage = b.stage) (hr : c.requests = b.requests) :
    c.requests = c.journal.filterMap (Entry.request? headers) ++ c.stage.request?.toList := by
  rw [hr, hj, hs, List.filterMap_append, hes, List.append_nil]
  exact h.requests_eq

theorem isRequested_answer {batch : List Nat} {registry : Registry Nat} {r : Response}
    (hd : (b.registries job.operation.family).drain? job.key = some (batch, registry))
    (h : b.requests = b.journal.filterMap (Entry.request? headers) ++
      (Entry.request? headers (.answered job batch r)).toList) :
    IsRequested headers (b.answer job r) := by
  rw [answer_of_drain? hd]
  refine ⟨nofun, ?_⟩
  show b.requests = _
  rw [h, List.filterMap_append]
  cases hr : Entry.request? headers (.answered job batch r) <;> simp [hr, Stage.request?]

theorem IsRequested.step (hE : E.IsComplete) (ho : b.IsOrderly)
    (hm : IsMatched b.registries b.outstanding) (h : IsRequested b.headers b) (hs : Step E b c) :
    IsRequested b.headers c := by
  cases hs with
  | raised => exact ⟨h.awaiting, (requests_note _ (by simp) b).trans h.requests_eq⟩
  | settled label outcome => exact ⟨h.awaiting, h.requests_eq⟩
  | joined label hb =>
    exact ⟨h.awaiting, h.append _ rfl (journal_enrol_of_joined label hb) rfl rfl⟩
  | @accepted label job queue hb hq =>
    refine ⟨?_, h.append [.registered b.tickets.length job .first, .accepted job] rfl ?_ rfl
      rfl⟩
    · intro s other hs hw
      exact h.awaiting hs ((WorkQueue.busy_submit_iff hq).mp hw)
    · simp [record, journal_enrol_of_first label hb]
  | refused label hb hq => exact ⟨h.awaiting, h.append _ rfl rfl rfl rfl⟩
  | followed hf =>
    obtain ⟨t, future, -, -, rfl⟩ := exists_of_followedBy? hf
    exact ⟨h.awaiting, h.requests_eq⟩
  | reported m =>
    have hr := requests_noteDone m b
    obtain ⟨events, he⟩ := exists_noteDone_eq m b
    rw [he] at hr ⊢
    exact ⟨h.awaiting, hr.trans h.requests_eq⟩
  | closed =>
    refine ⟨?_, h.requests_eq⟩
    intro s job hs hw
    exact h.awaiting hs ((WorkQueue.worker_close b.queue).symm.trans hw)
  | cancelled ht hc => exact ⟨h.awaiting, h.requests_eq⟩
  | cleared => exact ⟨h.awaiting, (requests_note _ (by simp) b).trans h.requests_eq⟩
  | taken hb =>
    refine ⟨?_, h.requests_eq⟩
    intro s job hs
    exact Stage.noConfusion (hs.symm.trans (ho.fresh hb))
  | @sent job s hw hs hp =>
    refine ⟨?_, ?_⟩
    · intro s' other hs' hw'
      obtain rfl : s = s' := Stage.awaiting.inj hs'
      obtain rfl : job = other := Worker.busy.inj (hw.symm.trans hw')
      exact hp
    · have hr := h.requests_eq
      rw [hs] at hr
      exact (requests_note_sent s b).trans (by simp [hr, Stage.request?, note])
  | unsent hw hs hp =>
    obtain ⟨batch, registry, hd⟩ := hm.exists_drain?_of_busy hw (by simp [hs])
    apply isRequested_answer hd
    simpa [hs, Stage.request?, Entry.request?, hp] using h.requests_eq
  | replied hw hs hr hp =>
    obtain ⟨batch, registry, hd⟩ := hm.exists_drain?_of_busy hw (by simp [hs])
    apply isRequested_answer hd
    simpa [hs, Stage.request?, Entry.request?, h.awaiting hs hw] using h.requests_eq
  | abandoned hw hs hr hf =>
    obtain ⟨r, hr'⟩ := hE _ _ hr
    simp [hr'] at hf
  | delivered hw hs | passedOver hw hs | finished hw hs =>
    have hr := h.requests_eq
    rw [hs] at hr
    refine ⟨?_, hr⟩
    intro s job hs'
    cases hs'

/-! ## Reasons -/

/-- What a step from `b` to a state may add to the journal. -/
inductive Adds (E : Surroundings) (b : Backend) : Backend → Entry → Prop where
  | registered {c : Backend} {n : Nat} {job : Job} {registration : Registration} :
    Adds E b c (.registered n job registration)
  | accepted {c : Backend} {job : Job} : Adds E b c (.accepted job)
  | refused {label : Text} {job : Job} :
    Adds E b (b.refuse label job)
      (.refused job [b.tickets.length] (.queueClosed b.queue.name))
  | answered {job : Job} {batch : List Nat} {registry : Registry Nat} {r : Response}
    (hd : (b.registries job.operation.family).drain? job.key = some (batch, registry))
    (hr : job.IsAnsweredBy E b.headers r) :
    Adds E b (b.answer job r) (.answered job batch r)

theorem Step.adds (hE : E.IsComplete) (hm : IsMatched b.registries b.outstanding)
    (h : IsRequested b.headers b) (hs : Step E b c) {e : Entry} (he : e ∈ c.journal) :
    e ∈ b.journal ∨ Adds E b c e := by
  cases hs with
  | joined label hb =>
    rw [journal_enrol_of_joined label hb, List.mem_append, List.mem_singleton] at he
    rcases he with he | rfl
    · exact .inl he
    · exact .inr .registered
  | accepted label hb hq =>
    simp only [record, journal_enrol_of_first label hb, List.append_assoc, List.mem_append,
      List.mem_singleton] at he
    rcases he with he | rfl | rfl
    · exact .inl he
    · exact .inr .registered
    · exact .inr .accepted
  | refused label hb hq =>
    simp only [refuse, List.mem_append, List.mem_cons, List.not_mem_nil, or_false] at he
    rcases he with he | rfl | rfl
    · exact .inl he
    · exact .inr .registered
    · exact .inr .refused
  | followed hf =>
    obtain ⟨t, future, -, -, rfl⟩ := exists_of_followedBy? hf
    exact .inl he
  | reported m =>
    obtain ⟨events, hevents⟩ := exists_noteDone_eq m b
    rw [hevents] at he
    exact .inl he
  | unsent hw hs hp =>
    obtain ⟨batch, registry, hd⟩ := hm.exists_drain?_of_busy hw (by simp [hs])
    rw [answer_of_drain? hd, List.mem_append, List.mem_singleton] at he
    rcases he with he | rfl
    · exact .inl he
    · exact .inr (.answered hd (.inl hp))
  | replied hw hs hr hp =>
    obtain ⟨batch, registry, hd⟩ := hm.exists_drain?_of_busy hw (by simp [hs])
    rw [answer_of_drain? hd, List.mem_append, List.mem_singleton] at he
    rcases he with he | rfl
    · exact .inl he
    · exact .inr (.answered hd (.inr ⟨_, _, h.awaiting hs hw, hr, hp⟩))
  | abandoned hw hs hr hf =>
    obtain ⟨r, hr'⟩ := hE _ _ hr
    simp [hr'] at hf
  | _ => exact .inl he

theorem Adds.isFounded {e : Entry} (h : Adds E b c e) :
    e.IsFounded E b.headers b.queue.name := by
  cases h with
  | registered | accepted => trivial
  | refused => rfl
  | answered hd hr => exact hr

end Backend

end SubscriptionClient
