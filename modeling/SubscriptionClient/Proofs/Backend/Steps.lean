import Mathlib.Logic.Relation
import SubscriptionClient.Backend.Work
import SubscriptionClient.Proofs.Concurrency.Batches

/-!
# Elementary steps

Whatever callers and the worker do comes down to a few elementary steps. Each is given with what
holds before it and with the state after it, so a fact about all states that a run goes through is
proved one step at a time. Registering for a job and submitting it make one step together; between
any two steps others may act.
-/

namespace SubscriptionClient

/-- What the surroundings of a backend may do: the replies that the transport may give to a request,
and the futures that callers may cancel. -/
structure Surroundings where
  replies : Sent → Reply → Prop
  cancels : Nat → Prop

namespace Surroundings

/-- Whether the surroundings may carry out these actions. -/
structure Allows (E : Surroundings) (actions : List Backend.Action) : Prop where
  replies {t : Sent → Reply} : .work t ∈ actions → ∀ s, E.replies s (t s)
  cancels {n : Nat} : .cancel n ∈ actions → E.cancels n

/-- Surroundings that may do anything, and whose replies may be malformed. -/
def unrestricted : Surroundings := ⟨fun _ _ => True, fun _ => True⟩

theorem Allows.unrestricted (actions : List Backend.Action) : unrestricted.Allows actions :=
  ⟨fun _ _ => trivial, fun _ => trivial⟩

theorem Allows.head {E : Surroundings} {a : Backend.Action} {actions : List Backend.Action}
    (h : E.Allows (a :: actions)) : E.Allows [a] :=
  ⟨fun ht => h.replies (by simp_all), fun hn => h.cancels (by simp_all)⟩

theorem Allows.tail {E : Surroundings} {a : Backend.Action} {actions : List Backend.Action}
    (h : E.Allows (a :: actions)) : E.Allows actions :=
  ⟨fun ht => h.replies (List.mem_cons_of_mem a ht), fun hn => h.cancels (List.mem_cons_of_mem a hn)⟩

/-- Whether every reply has a response in it. -/
def IsComplete (E : Surroundings) : Prop :=
  ∀ s reply, E.replies s reply → ∃ r, reply.response? = .ok r

end Surroundings

namespace Backend

/-- Registers a future for a job that the queue refuses, and fails it. -/
def refuse (label : Text) (job : Job) (b : Backend) : Backend :=
  let n := b.tickets.length
  let fault : Fault := .queueClosed b.queue.name
  { b with
    tickets := b.tickets ++ [⟨label, some job.key, ⟨.finished (.error fault), []⟩⟩]
    journal := b.journal ++ [.registered n job .first, .refused job [n] fault] }

/-- The steps from a state. -/
inductive Step (E : Surroundings) (b : Backend) : Backend → Prop where
  | raised {label : Text} {c : Call} {fault : Fault} (h : c.admission = .raised fault) :
    Step E b (b.note (.raised label c fault))
  | settled (label : Text) (outcome : Attempt Outcome) :
    Step E b (b.handOut label none (.finished outcome)).1
  | joined (label : Text) {job : Job} {batch : List Nat}
    (h : (b.registries job.operation.family).batch? job.key = some batch) :
    Step E b (b.enrol label job).1
  | accepted (label : Text) {job : Job} {queue : WorkQueue Job}
    (h : (b.registries job.operation.family).batch? job.key = none)
    (hq : b.queue.submit job = .ok queue) :
    Step E b ({ (b.enrol label job).1 with queue }.record (.accepted job))
  | refused (label : Text) {job : Job}
    (h : (b.registries job.operation.family).batch? job.key = none)
    (hq : b.queue.closed = true) :
    Step E b (b.refuse label job)
  | followed {n : Nat} {next : Script} {c : Backend} (h : b.followedBy? n next = some c) :
    Step E b c
  | reported (n : Nat) : Step E b (b.noteDone n)
  | closed : Step E b { b with queue := b.queue.close }
  | cancelled {n : Nat} {t : Ticket} (h : b.tickets[n]? = some t) (hc : E.cancels n) :
    Step E b (b.setFuture n t.future.cancel.1)
  | cleared : Step E b (b.note .cleared)
  | taken (h : ∀ job, b.queue.worker ≠ .busy job) : Step E b { b with queue := b.queue.take }
  | sent {job : Job} {s : Sent} (hw : b.queue.worker = .busy job) (hs : b.stage = .fresh)
    (h : job.operation.exchange.prepare b.headers = .ok s) :
    Step E b { b.note (.sent s) with stage := .awaiting s }
  | unsent {job : Job} {r : Response} (hw : b.queue.worker = .busy job) (hs : b.stage = .fresh)
    (h : job.operation.exchange.prepare b.headers = .error r) :
    Step E b (b.answer job r)
  | replied {job : Job} {s : Sent} {reply : Reply} {r : Response}
    (hw : b.queue.worker = .busy job) (hs : b.stage = .awaiting s) (hr : E.replies s reply)
    (h : reply.response? = .ok r) :
    Step E b (b.answer job r)
  | abandoned {job : Job} {s : Sent} {reply : Reply} {fault : Fault}
    (hw : b.queue.worker = .busy job) (hs : b.stage = .awaiting s) (hr : E.replies s reply)
    (h : reply.response? = .error fault) :
    Step E b (b.abandon fault)
  | delivered {job : Job} {outcome : Attempt Outcome} {n : Nat} {ns : List Nat} {t : Ticket}
    {future : Future (Attempt Outcome) Script} {scripts : List Script}
    (hw : b.queue.worker = .busy job) (hs : b.stage = .delivering outcome (n :: ns))
    (ht : b.tickets[n]? = some t) (h : t.future.deliver? outcome = some (future, scripts)) :
    Step E b ({ b with stage := .delivering outcome ns }.setFuture n future)
  | passedOver {job : Job} {outcome : Attempt Outcome} {n : Nat} {ns : List Nat}
    (hw : b.queue.worker = .busy job) (hs : b.stage = .delivering outcome (n :: ns))
    (h : ∀ t, b.tickets[n]? = some t → t.future.deliver? outcome = none) :
    Step E b { b with stage := .delivering outcome ns }
  | finished {job : Job} {outcome : Attempt Outcome} (hw : b.queue.worker = .busy job)
    (hs : b.stage = .delivering outcome []) :
    Step E b b.finish

/-- What the worker does at once, by where it stands. A delivery comes with the scripts that follow
the future. -/
inductive WorkStep (transport : Sent → Reply) (b : Backend) : Backend → Prop where
  | taken (hw : ∀ job, b.queue.worker ≠ .busy job) :
    WorkStep transport b { b with queue := b.queue.take }
  | sent {job : Job} {s : Sent} (hw : b.queue.worker = .busy job) (hs : b.stage = .fresh)
    (h : job.operation.exchange.prepare b.headers = .ok s) :
    WorkStep transport b { b.note (.sent s) with stage := .awaiting s }
  | unsent {job : Job} {r : Response} (hw : b.queue.worker = .busy job) (hs : b.stage = .fresh)
    (h : job.operation.exchange.prepare b.headers = .error r) :
    WorkStep transport b (b.answer job r)
  | replied {job : Job} {s : Sent} {r : Response} (hw : b.queue.worker = .busy job)
    (hs : b.stage = .awaiting s) (h : (transport s).response? = .ok r) :
    WorkStep transport b (b.answer job r)
  | abandoned {job : Job} {s : Sent} {fault : Fault} (hw : b.queue.worker = .busy job)
    (hs : b.stage = .awaiting s) (h : (transport s).response? = .error fault) :
    WorkStep transport b (b.abandon fault)
  | delivered {job : Job} {outcome : Attempt Outcome} {n : Nat} {ns : List Nat}
    (hw : b.queue.worker = .busy job) (hs : b.stage = .delivering outcome (n :: ns)) :
    WorkStep transport b (deliver outcome n { b with stage := .delivering outcome ns })
  | finished {job : Job} {outcome : Attempt Outcome} (hw : b.queue.worker = .busy job)
    (hs : b.stage = .delivering outcome []) :
    WorkStep transport b b.finish

theorem workStep (transport : Sent → Reply) (b : Backend) :
    WorkStep transport b (b.work transport) := by
  cases hw : b.queue.worker with
  | busy job =>
    cases hs : b.stage with
    | fresh =>
      cases hp : job.operation.exchange.prepare b.headers with
      | ok s =>
        simp only [work, hw, hs, send, hp]
        exact .sent hw hs hp
      | error r =>
        simp only [work, hw, hs, send, hp]
        exact .unsent hw hs hp
    | awaiting s =>
      cases hr : (transport s).response? with
      | ok r =>
        simp only [work, hw, hs, hr]
        exact .replied hw hs hr
      | error fault =>
        simp only [work, hw, hs, hr]
        exact .abandoned hw hs hr
    | delivering outcome ns =>
      cases ns with
      | nil =>
        simp only [work, hw, hs]
        exact .finished hw hs
      | cons n ns =>
        simp only [work, hw, hs]
        exact .delivered hw hs
  | absent | idle | gone =>
    simp only [work, hw]
    exact .taken (by simp [hw])

abbrev Reaches (E : Surroundings) : Backend → Backend → Prop := Relation.ReflTransGen (Step E)

variable {E : Surroundings} {b c : Backend}

theorem Reaches.step (h : Step E b c) : Reaches E b c := .single h

/-! ## Calls -/

theorem enrol_eq_joined (label : Text) {job : Job} {batch : List Nat}
    (h : (b.registries job.operation.family).batch? job.key = some batch) :
    b.enrol label job = ((b.enrol label job).1, b.tickets.length, .joined) := by
  have hj := (Registry.register_snd_eq_joined_iff (b := b.tickets.length)).mpr ⟨batch, h⟩
  simp only [enrol, handOut, hj]

theorem enrol_eq_first (label : Text) {job : Job}
    (h : (b.registries job.operation.family).batch? job.key = none) :
    b.enrol label job = ((b.enrol label job).1, b.tickets.length, .first) := by
  have hf := (Registry.register_snd_eq_first_iff job.key b.tickets.length _).mpr h
  simp only [enrol, handOut, hf]

theorem fail_of_pending {fault : Fault} {n : Nat} {t : Ticket} (h : b.tickets[n]? = some t)
    (hp : t.future = .pending) : b.fail fault n = b.setFuture n ⟨.finished (.error fault), []⟩ := by
  simp [fail, h, hp, Future.deliver?, Future.pending]

theorem getElem?_concat_eq_some_iff {α : Type} {n : Nat} {xs : List α} {x y : α} :
    (xs ++ [x])[n]? = some y ↔ xs[n]? = some y ∨ n = xs.length ∧ y = x := by
  rcases Nat.lt_trichotomy n xs.length with h | rfl | h
  · simp [List.getElem?_append_left h, Nat.ne_of_lt h]
  · simp [eq_comm]
  · have hx : xs[n]? = none := List.getElem?_eq_none (Nat.le_of_lt h)
    have hy : (xs ++ [x])[n]? = none := List.getElem?_eq_none (by simp; omega)
    simp [hx, hy, Nat.ne_of_gt h]

theorem modify_concat {α : Type} (f : α → α) (xs : List α) (x : α) :
    (xs ++ [x]).modify xs.length f = xs ++ [f x] := by
  rw [List.modify_eq_take_cons_drop (by simp)]
  simp

/-- A refused job leaves nothing in the registries: its batch is taken out at once. -/
theorem submit_enrol_of_closed {label : Text} {job : Job}
    (h : (b.registries job.operation.family).batch? job.key = none)
    (hq : b.queue.closed = true) :
    (b.enrol label job).1.submit job = .ok (b.refuse label job) := by
  have hsubmit : (b.enrol label job).1.queue.submit job = .error (.queueClosed b.queue.name) :=
    WorkQueue.submit_of_closed hq job
  have hdrain : ((b.enrol label job).1.registries job.operation.family).drain? job.key =
      some ([b.tickets.length], b.registries job.operation.family) := by
    have hd := Registry.drain?_register_of_batch?_eq_none b.tickets.length h
    simpa [enrol, handOut, record, setRegistry] using hd
  have hback : (b.enrol label job).1.setRegistry job.operation.family
      (b.registries job.operation.family) =
        { (b.enrol label job).1 with registries := b.registries } := by
    simp only [setRegistry, mk.injEq, and_true, true_and]
    funext f
    by_cases hf : f = job.operation.family <;> simp [enrol, handOut, record, setRegistry, hf]
  have hfirst := (Registry.register_snd_eq_first_iff job.key b.tickets.length _).mpr h
  simp only [submit, hsubmit, hdrain, hback, List.foldl_cons, List.foldl_nil, Except.ok.injEq]
  rw [fail_of_pending (t := ⟨label, some job.key, .pending⟩)]
  · simp [refuse, setFuture, record, enrol, handOut, setRegistry, hfirst, modify_concat]
  · simp [record, enrol, handOut, setRegistry, Future.pending]
  · rfl

theorem dispatch_of_joined (label : Text) {job : Job} {batch : List Nat}
    (h : (b.registries job.operation.family).batch? job.key = some batch) :
    b.dispatch label job = ((b.enrol label job).1, .ok b.tickets.length) := by
  rw [dispatch, enrol_eq_joined label h]

theorem dispatch_of_accepted (label : Text) {job : Job} {queue : WorkQueue Job}
    (h : (b.registries job.operation.family).batch? job.key = none)
    (hq : b.queue.submit job = .ok queue) :
    b.dispatch label job =
      ({ (b.enrol label job).1 with queue }.record (.accepted job), .ok b.tickets.length) := by
  have hq' : (b.enrol label job).1.queue = b.queue := rfl
  rw [dispatch, enrol_eq_first label h]
  simp only [submit, hq', hq]

theorem dispatch_of_refused (label : Text) {job : Job}
    (h : (b.registries job.operation.family).batch? job.key = none)
    (hq : b.queue.closed = true) :
    b.dispatch label job = (b.refuse label job, .ok b.tickets.length) := by
  rw [dispatch, enrol_eq_first label h]
  simp only [submit_enrol_of_closed h hq]

/-- A dispatch hands out a future, and never raises. -/
theorem exists_dispatch_eq (E : Surroundings) (label : Text) (job : Job) (b : Backend) :
    ∃ c t, b.dispatch label job = (c, .ok b.tickets.length) ∧ Reaches E b c ∧
      c.tickets = b.tickets ++ [t] ∧ t.future.followers = [] := by
  cases h : (b.registries job.operation.family).batch? job.key with
  | some batch =>
    exact ⟨_, _, dispatch_of_joined label h, .step (.joined label h), rfl, rfl⟩
  | none =>
    cases hq : b.queue.closed with
    | false =>
      have hsubmit := WorkQueue.submit_of_open hq job
      exact ⟨_, _, dispatch_of_accepted label h hsubmit, .step (.accepted label h hsubmit), rfl,
        rfl⟩
    | true => exact ⟨_, _, dispatch_of_refused label h hq, .step (.refused label h hq), rfl, rfl⟩

theorem issue_of_dispatch (label : Text) {call : Call} {job : Job} {n : Nat}
    (h : call.admission = .dispatch job) (hd : b.dispatch label job = (c, .ok n)) :
    b.issue label call = (c, .ok n) := by
  simp only [issue, h, hd]

theorem issue_of_raised {call : Call} {fault : Fault} (h : call.admission = .raised fault)
    (label : Text) (b : Backend) :
    b.issue label call = (b.note (.raised label call fault), .error fault) := by
  simp only [issue, h]

theorem issue_of_settled {call : Call} {outcome : Attempt Outcome}
    (h : call.admission = .settled outcome) (label : Text) (b : Backend) :
    b.issue label call =
      ((b.handOut label none (.finished outcome)).1, .ok b.tickets.length) := by
  simp only [issue, h, handOut]

/-- A call raises, or it hands out a future that nothing follows yet. -/
theorem issue_cases (E : Surroundings) (label : Text) (call : Call) (b : Backend) :
    (∃ fault, call.admission = .raised fault ∧
      b.issue label call = (b.note (.raised label call fault), .error fault)) ∨
    ∃ c t, b.issue label call = (c, .ok b.tickets.length) ∧ Reaches E b c ∧
      c.tickets = b.tickets ++ [t] ∧ t.future.followers = [] := by
  cases h : call.admission with
  | raised fault => exact .inl ⟨fault, rfl, issue_of_raised h label b⟩
  | settled outcome =>
    exact .inr ⟨_, _, issue_of_settled h label b, .step (.settled label outcome), rfl, rfl⟩
  | dispatch job =>
    obtain ⟨c, t, hd, hr, ht, hf⟩ := exists_dispatch_eq E label job b
    exact .inr ⟨c, t, issue_of_dispatch label h hd, hr, ht, hf⟩

theorem reaches_issue (E : Surroundings) (label : Text) (c : Call) (b : Backend) :
    Reaches E b (b.issue label c).1 := by
  rcases issue_cases E label c b with ⟨fault, h, hissue⟩ | ⟨d, t, hissue, hr, -⟩
  · rw [hissue]
    exact .step (.raised h)
  · rwa [hissue]

end Backend

end SubscriptionClient
