import SubscriptionClient.Proofs.Backend.Cancelling
import SubscriptionClient.Proofs.Backend.Slots

/-!
# Views without one family and key

A view shows a backend as it is for everyone who has nothing to do with one family and key. What
callers do, and what an answer does, comes down to a change of the view that depends on nothing but
the view; an answer for the family and key that is left out changes nothing in it.
-/

namespace SubscriptionClient

/-- Whether nothing follows the calls of a script. -/
def Script.IsSilent : Script → Prop
  | nil => True
  | call _ _ next rest => next = nil ∧ rest.IsSilent
  | close rest => rest.IsSilent

namespace Ticket

def cancelled (t : Ticket) : Ticket := { t with future := t.future.cancel.1 }

/-- A ticket after a delivery, which its future may refuse. -/
def given (outcome : Attempt Outcome) (t : Ticket) : Ticket :=
  match t.future.deliver? outcome with
  | some (future, _) => { t with future }
  | none => t

end Ticket

/-- Changes the ticket at one place, if there is one. -/
def changeAt (n : Nat) (f : Ticket → Ticket) (tickets : Nat → Option Ticket) :
    Nat → Option Ticket :=
  fun m => if m = n then (tickets m).map f else tickets m

def deliverAll (outcome : Attempt Outcome) (ns : List Nat) (tickets : Nat → Option Ticket) :
    Nat → Option Ticket :=
  ns.foldl (fun tickets n => changeAt n (Ticket.given outcome) tickets) tickets

/-- The tickets once the worker has finished its deliveries. -/
def Stage.deliverRest : Stage → (Nat → Option Ticket) → Nat → Option Ticket
  | delivering outcome ns, tickets => deliverAll outcome ns tickets
  | _, tickets => tickets

@[ext] structure View where
  name : Text
  closed : Bool
  /-- How many futures were handed out. -/
  count : Nat
  /-- The futures that are left out. -/
  omitted : List Nat
  tickets : Nat → Option Ticket
  batch? : Slot → Option (List Nat)
  outstanding : List Job
  accepted : List Job

namespace View

def handOut (t : Ticket) (v : View) : View :=
  { v with
    count := v.count + 1
    tickets := fun n => if n = v.count then some t else v.tickets n }

/-- Registers a new future for a job. -/
def enrol (label : Text) (job : Job) (v : View) : View :=
  { v.handOut ⟨label, some job.key, ⟨.pending, [.nil]⟩⟩ with
    batch? := fun s =>
      if s = job.slot then some ((v.batch? s).getD [] ++ [v.count]) else v.batch? s }

def dispatch (label : Text) (job : Job) (v : View) : View :=
  match v.batch? job.slot, v.closed with
  | some _, _ => v.enrol label job
  | none, true => v.handOut ⟨label, some job.key, ⟨.finished (.error (.queueClosed v.name)), []⟩⟩
  | none, false =>
    { v.enrol label job with
      outstanding := v.outstanding ++ [job]
      accepted := v.accepted ++ [job] }

/-- A call. All that is to be seen of one for the family and key that is left out is that a future
was handed out. -/
def ask (s : Slot) (label : Text) (c : Call) (v : View) : View :=
  match c.admission with
  | .raised _ => v
  | .settled outcome => v.handOut ⟨label, none, ⟨.finished outcome, []⟩⟩
  | .dispatch job =>
    if job.slot = s then { v with count := v.count + 1, omitted := v.omitted ++ [v.count] }
    else v.dispatch label job

def perform (s : Slot) : Script → View → View
  | .nil, v => v
  | .close rest, v => perform s rest { v with closed := true }
  | .call label c _ rest, v => perform s rest (v.ask s label c)

def cancel (n : Nat) (v : View) : View :=
  { v with tickets := changeAt n Ticket.cancelled v.tickets }

/-- What the answer for the first outstanding job does. A malformed one leaves its batch. -/
def answer (headers : List (Text × Text)) (transport : Sent → Reply) (v : View) (job : Job) :
    View :=
  match (job.request? headers).map fun sent => (transport sent).response?, v.batch? job.slot with
  | some (.ok r), some batch =>
    { v with
      tickets := deliverAll (job.operation.handle r) batch v.tickets
      batch? := fun s => if s = job.slot then none else v.batch? s
      outstanding := v.outstanding.tail }
  | _, _ => { v with outstanding := v.outstanding.tail }

/-- Whether only futures are left out that were handed out. -/
def IsBounded (v : View) : Prop := ∀ n ∈ v.omitted, n < v.count

/-- The view once all outstanding jobs are answered. -/
def settle (headers : List (Text × Text)) (transport : Sent → Reply) (v : View) : View :=
  v.outstanding.foldl (answer headers transport) v

variable {v : View}

theorem IsBounded.ask (h : v.IsBounded) (s : Slot) (label : Text) (c : Call) :
    (v.ask s label c).IsBounded := by
  have hmore : ∀ n ∈ v.omitted, n < v.count + 1 := fun n hn => Nat.lt_succ_of_lt (h n hn)
  unfold View.ask
  cases c.admission with
  | raised => exact h
  | settled => exact hmore
  | dispatch job =>
    by_cases hs : job.slot = s
    · simp only [hs, if_true]
      intro n hn
      rcases List.mem_append.mp hn with hn | hn
      · exact hmore n hn
      · exact Nat.lt_succ_of_le (Nat.le_of_eq (List.mem_singleton.mp hn))
    · simp only [hs, if_false]
      unfold View.dispatch
      split <;> exact hmore

end View

namespace Backend

/-- The tickets of those who were not registered under a family and key. -/
def shown (s : Slot) (b : Backend) : Nat → Option Ticket :=
  fun n => if n ∈ b.enrolledIn s then none else b.tickets[n]?

def view (s : Slot) (b : Backend) : View where
  name := b.queue.name
  closed := b.queue.closed
  count := b.tickets.length
  omitted := b.enrolledIn s
  tickets := b.stage.deliverRest (b.shown s)
  batch? := fun s' => if s' = s then none else b.batch? s'
  outstanding := b.outstanding.filter (·.slot ≠ s)
  accepted := b.accepted.filter (·.slot ≠ s)

variable {s : Slot} {b c : Backend} {job : Job} {n : Nat} {t : Ticket} {label : Text}

/-! ## Tickets -/

theorem deliverRest_of_not_delivering {stage : Stage}
    (hs : ∀ outcome ns, stage ≠ .delivering outcome ns) (tickets : Nat → Option Ticket) :
    stage.deliverRest tickets = tickets := by
  cases stage with
  | delivering outcome ns => exact (hs outcome ns rfl).elim
  | fresh | awaiting => rfl

theorem shown_concat (ht : c.tickets = b.tickets ++ [t]) (he : c.enrolledIn s = b.enrolledIn s)
    (hlt : ∀ n ∈ b.enrolledIn s, n < b.tickets.length) :
    c.shown s = fun n => if n = b.tickets.length then some t else b.shown s n := by
  funext n
  simp only [shown, he, ht]
  rcases Nat.lt_trichotomy n b.tickets.length with hn | rfl | hn
  · simp [Nat.ne_of_lt hn, List.getElem?_append_left hn]
  · have hnew : b.tickets.length ∉ b.enrolledIn s := fun hmem => Nat.lt_irrefl _ (hlt _ hmem)
    simp [hnew]
  · have hnone : (b.tickets ++ [t])[n]? = none := List.getElem?_eq_none (by simp; omega)
    have hnone' : b.tickets[n]? = none := List.getElem?_eq_none (Nat.le_of_lt hn)
    simp [Nat.ne_of_gt hn, hnone, hnone']

theorem shown_concat_omitted (ht : c.tickets = b.tickets ++ [t])
    (he : c.enrolledIn s = b.enrolledIn s ++ [b.tickets.length]) : c.shown s = b.shown s := by
  funext n
  simp only [shown, he, ht, List.mem_append, List.mem_singleton]
  rcases Nat.lt_trichotomy n b.tickets.length with hn | rfl | hn
  · simp [Nat.ne_of_lt hn, List.getElem?_append_left hn]
  · simp
  · have hnone : (b.tickets ++ [t])[n]? = none := List.getElem?_eq_none (by simp; omega)
    have hnone' : b.tickets[n]? = none := List.getElem?_eq_none (Nat.le_of_lt hn)
    simp [Nat.ne_of_gt hn, hnone, hnone']

theorem shown_modify (f : Ticket → Ticket) (ht : c.tickets = b.tickets.modify n f)
    (he : c.enrolledIn s = b.enrolledIn s) : c.shown s = changeAt n f (b.shown s) := by
  funext m
  simp only [shown, changeAt, he, ht, List.getElem?_modify]
  by_cases hm : m = n
  · subst hm
    by_cases hmem : m ∈ b.enrolledIn s <;> simp [hmem]
  · simp [hm, Ne.symm hm]

theorem changeAt_of_none {tickets : Nat → Option Ticket} (h : tickets n = none)
    (f : Ticket → Ticket) : changeAt n f tickets = tickets := by
  funext m
  by_cases hm : m = n <;> simp [changeAt, hm, h]

theorem deliverAll_of_none (outcome : Attempt Outcome) {ns : List Nat}
    {tickets : Nat → Option Ticket} (h : ∀ n ∈ ns, tickets n = none) :
    deliverAll outcome ns tickets = tickets := by
  induction ns with
  | nil => rfl
  | cons n ns ih =>
    obtain ⟨hn, hns⟩ := List.forall_mem_cons.mp h
    rw [deliverAll, List.foldl_cons, changeAt_of_none hn]
    exact ih hns

/-! ## Calls -/

/-- A call that nothing follows. -/
def ask (label : Text) (call : Call) (b : Backend) : Backend :=
  b.perform (.call label call .nil .nil)

theorem perform_call (label : Text) (call : Call) (rest : Script) (b : Backend) :
    b.perform (.call label call .nil rest) = (b.ask label call).perform rest := by
  rcases hissue : b.issue label call with ⟨issued, fault | n⟩
  · simp only [ask, perform, hissue]
  · cases hf : issued.followedBy? n .nil <;> simp only [ask, perform, hissue, hf]

theorem ask_of_raised {call : Call} {fault : Fault} (h : call.admission = .raised fault) :
    b.ask label call = b.note (.raised label call fault) := by
  simp only [ask, perform, issue, h]

/-- A future that is pending is waited for. -/
theorem ask_of_pending {call : Call} (hissue : b.issue label call = (c, .ok b.tickets.length))
    (ht : c.tickets = b.tickets ++ [t]) (hp : t.future = .pending) :
    b.ask label call = { c with
      tickets := b.tickets ++ [{ t with future := ⟨.pending, [.nil]⟩ }] } := by
  have hn : c.tickets[b.tickets.length]? = some t := by simp [ht]
  have hf : t.future.followedBy? Script.nil = some ⟨.pending, [.nil]⟩ := by
    simp [hp, Future.pending, Future.followedBy?, Future.isDone, FutureState.isDone]
  have hfollowed : c.followedBy? b.tickets.length .nil =
      some (c.setFuture b.tickets.length ⟨.pending, [.nil]⟩) := by
    simp [followedBy?, hn, hf]
  simp only [ask, perform, hissue, hfollowed, setFuture, ht, modify_concat]

/-- A future that is done is reported at once. -/
theorem ask_of_isDone {call : Call} (hissue : b.issue label call = (c, .ok b.tickets.length))
    (ht : c.tickets = b.tickets ++ [t]) (hd : t.future.isDone = true) :
    ∃ events, b.ask label call = { c with events } := by
  have hn : c.tickets[b.tickets.length]? = some t := by simp [ht]
  have hf : t.future.followedBy? Script.nil = none := by simp [Future.followedBy?, hd]
  have hfollowed : c.followedBy? b.tickets.length .nil = none := by
    simp [followedBy?, hn, hf]
  obtain ⟨events, he⟩ := exists_noteDone_eq b.tickets.length c
  exact ⟨events, by simp only [ask, perform, hissue, hfollowed, he]⟩

/-- What a call for a job comes down to: a future is handed out, with what else there is to see. -/
structure Asked (job : Job) (t : Ticket) (registries : Family → Registry Nat) (jobs : List Job)
    (b c : Backend) : Prop where
  tickets : c.tickets = b.tickets ++ [t]
  enrolledIn (s : Slot) : c.enrolledIn s =
    b.enrolledIn s ++ if job.slot = s then [b.tickets.length] else []
  registries : c.registries = registries
  outstanding : c.outstanding = b.outstanding ++ jobs
  accepted : c.accepted = b.accepted ++ jobs
  stage : c.stage = b.stage
  name : c.queue.name = b.queue.name
  closed : c.queue.closed = b.queue.closed

theorem asked_of_joined {call : Call} {batch : List Nat} (h : call.admission = .dispatch job)
    (hb : (b.registries job.operation.family).batch? job.key = some batch) (label : Text) :
    Asked job ⟨label, some job.key, ⟨.pending, [.nil]⟩⟩
      (registeredFor job b.tickets.length b.registries) [] b (b.ask label call) := by
  rw [ask_of_pending (issue_of_dispatch label h (dispatch_of_joined label hb)) rfl rfl]
  refine ⟨rfl, fun s => ?_, rfl, ?_, ?_, rfl, rfl, rfl⟩
  · refine Eq.trans (enrolledIn_of_append (journal_enrol_of_joined label hb)) ?_
    by_cases hs : job.slot = s <;> simp [Entry.registeredIn?, hs]
  · exact (List.append_nil _).symm
  · exact (accepted_enrol label job b).trans (List.append_nil _).symm

theorem asked_of_accepted {call : Call} (h : call.admission = .dispatch job)
    (hb : (b.registries job.operation.family).batch? job.key = none)
    (hq : b.queue.closed = false) (label : Text) :
    Asked job ⟨label, some job.key, ⟨.pending, [.nil]⟩⟩
      (registeredFor job b.tickets.length b.registries) [job] b (b.ask label call) := by
  have hsubmit := WorkQueue.submit_of_open hq job
  have hjournal (queue : WorkQueue Job) :
      ({ (b.enrol label job).1 with queue }.record (.accepted job)).journal =
        b.journal ++ [.registered b.tickets.length job .first, .accepted job] := by
    simp [record, journal_enrol_of_first label hb]
  rw [ask_of_pending (issue_of_dispatch label h (dispatch_of_accepted label hb hsubmit)) rfl rfl]
  refine ⟨rfl, fun s => ?_, rfl, ?_, ?_, rfl, rfl, ?_⟩
  · refine Eq.trans (enrolledIn_of_append (hjournal _)) ?_
    by_cases hs : job.slot = s <;> simp [Entry.registeredIn?, hs, List.filterMap_cons]
  · exact outstanding_submit hsubmit rfl rfl
  · exact accepted_record_accepted label job _ b
  · rfl

theorem asked_of_refused {call : Call} (h : call.admission = .dispatch job)
    (hb : (b.registries job.operation.family).batch? job.key = none)
    (hq : b.queue.closed = true) (label : Text) :
    Asked job ⟨label, some job.key, ⟨.finished (.error (.queueClosed b.queue.name)), []⟩⟩
      b.registries [] b (b.ask label call) := by
  obtain ⟨events, he⟩ :=
    ask_of_isDone (issue_of_dispatch label h (dispatch_of_refused label hb hq)) rfl rfl
  rw [he]
  refine ⟨rfl, fun s => ?_, rfl, ?_, ?_, rfl, rfl, rfl⟩
  · refine Eq.trans (enrolledIn_of_append (b := b) rfl) ?_
    by_cases hs : job.slot = s <;> simp [Entry.registeredIn?, hs, List.filterMap_cons]
  · exact (List.append_nil _).symm
  · exact (accepted_refuse label job b).trans (List.append_nil _).symm

namespace Asked

variable {registries : Family → Registry Nat} {jobs : List Job}

/-- Of a call for the family and key that is left out there is nothing to see. -/
theorem view_of_omitted (h : Asked job t registries jobs b c) (hjob : job.slot = s)
    (hbatch : ∀ s', job.slot ≠ s' → (registries s'.1).batch? s'.2 = b.batch? s')
    (hjobs : ∀ j ∈ jobs, j = job) :
    c.view s = { b.view s with
      count := (b.view s).count + 1
      omitted := (b.view s).omitted ++ [(b.view s).count] } := by
  have he := h.enrolledIn s
  rw [if_pos hjob] at he
  have hslot : ∀ j ∈ jobs, j.slot = s := fun j hj => by rw [hjobs j hj, hjob]
  refine View.ext h.name h.closed ?_ he ?_ ?_ ?_ ?_
  · simp [view, h.tickets]
  · simp only [view, h.stage]
    rw [shown_concat_omitted h.tickets he]
  · funext s'
    by_cases hs' : s' = s
    · simp [view, hs']
    · simp only [view, if_neg hs', Backend.batch?, h.registries]
      exact hbatch s' fun heq => hs' (heq.symm.trans hjob)
  · simpa [view, h.outstanding] using hslot
  · simpa [view, h.accepted] using hslot

section Shown

variable (hs : ∀ outcome ns, b.stage ≠ .delivering outcome ns)
  (hlt : ∀ n ∈ b.enrolledIn s, n < b.tickets.length)

include hs hlt

theorem shown_eq (h : Asked job t registries jobs b c) (hjob : job.slot ≠ s) :
    c.stage.deliverRest (c.shown s) = fun n => if n = b.tickets.length then some t else
      b.stage.deliverRest (b.shown s) n := by
  have he := h.enrolledIn s
  rw [if_neg hjob, List.append_nil] at he
  rw [h.stage, deliverRest_of_not_delivering hs, deliverRest_of_not_delivering hs,
    shown_concat h.tickets he hlt]

theorem view_of_enrolled
    (h : Asked job ⟨label, some job.key, ⟨.pending, [.nil]⟩⟩
      (registeredFor job b.tickets.length b.registries) jobs b c) (hjob : job.slot ≠ s) :
    c.view s = { (b.view s).enrol label job with
      outstanding := (b.view s).outstanding ++ jobs.filter (·.slot ≠ s)
      accepted := (b.view s).accepted ++ jobs.filter (·.slot ≠ s) } := by
  refine View.ext h.name h.closed ?_ ?_ (h.shown_eq hs hlt hjob) ?_ ?_ ?_
  · simp [view, View.enrol, View.handOut, h.tickets]
  · simp [view, View.enrol, View.handOut, h.enrolledIn, hjob]
  · funext s'
    simp only [view, View.enrol, View.handOut, Backend.batch?, h.registries]
    by_cases hs' : s' = job.slot
    · rw [hs', if_neg hjob, if_pos rfl, if_neg hjob, batch?_registeredFor_self]
    · rw [if_neg hs', batch?_registeredFor_of_ne (Ne.symm hs')]
  · simp [view, h.outstanding]
  · simp [view, h.accepted]

theorem view_of_refused (h : Asked job t b.registries [] b c) (hjob : job.slot ≠ s) :
    c.view s = (b.view s).handOut t := by
  refine View.ext h.name h.closed ?_ ?_ (h.shown_eq hs hlt hjob) ?_ ?_ ?_
  · simp [view, View.handOut, h.tickets]
  · simp [view, View.handOut, h.enrolledIn, hjob]
  · simp [view, View.handOut, Backend.batch?, h.registries]
  · simp [view, View.handOut, h.outstanding]
  · simp [view, View.handOut, h.accepted]

end Shown

end Asked

section Callers

variable (hs : ∀ outcome ns, b.stage ≠ .delivering outcome ns)
  (hlt : ∀ n ∈ b.enrolledIn s, n < b.tickets.length)

include hs hlt

theorem view_ask_of_dispatch {call : Call} (h : call.admission = .dispatch job) (label : Text) :
    (b.ask label call).view s =
      if job.slot = s then { b.view s with
        count := (b.view s).count + 1
        omitted := (b.view s).omitted ++ [(b.view s).count] }
      else (b.view s).dispatch label job := by
  have hbatch (hjob : job.slot ≠ s) : (b.view s).batch? job.slot =
      (b.registries job.operation.family).batch? job.key := if_neg hjob
  have hother (s' : Slot) (hs' : job.slot ≠ s') :
      (registeredFor job b.tickets.length b.registries s'.1).batch? s'.2 = b.batch? s' :=
    batch?_registeredFor_of_ne hs' _ _
  cases hb : (b.registries job.operation.family).batch? job.key with
  | some batch =>
    have hasked := asked_of_joined h hb label
    split
    · rename_i hjob
      exact hasked.view_of_omitted hjob hother nofun
    · rename_i hjob
      rw [hasked.view_of_enrolled hs hlt hjob, View.dispatch, hbatch hjob, hb]
      simp [View.enrol, View.handOut]
  | none =>
    cases hq : b.queue.closed with
    | false =>
      have hasked := asked_of_accepted h hb hq label
      split
      · rename_i hjob
        exact hasked.view_of_omitted hjob hother (by simp)
      · rename_i hjob
        have hopen : (b.view s).closed = false := hq
        rw [hasked.view_of_enrolled hs hlt hjob, View.dispatch, hbatch hjob, hb, hopen]
        simp [hjob]
    | true =>
      have hasked := asked_of_refused h hb hq label
      split
      · rename_i hjob
        exact hasked.view_of_omitted hjob (fun _ _ => rfl) nofun
      · rename_i hjob
        have hclosed : (b.view s).closed = true := hq
        rw [hasked.view_of_refused hs hlt hjob, View.dispatch, hbatch hjob, hb, hclosed]
        rfl

theorem view_ask (label : Text) (call : Call) :
    (b.ask label call).view s = (b.view s).ask s label call := by
  cases h : call.admission with
  | raised fault =>
    rw [ask_of_raised h, View.ask, h]
    rfl
  | settled outcome =>
    have hissue : b.issue label call =
        ((b.handOut label none (.finished outcome)).1, .ok b.tickets.length) := by
      simp only [issue, h, handOut]
    obtain ⟨events, he⟩ := ask_of_isDone hissue rfl rfl
    rw [he, View.ask, h]
    refine View.ext rfl rfl ?_ rfl ?_ rfl rfl rfl
    · simp [view, View.handOut, handOut]
    · simp only [view, View.handOut, handOut, deliverRest_of_not_delivering hs]
      exact shown_concat rfl rfl hlt
  | dispatch job => rw [view_ask_of_dispatch hs hlt h, View.ask, h]

end Callers

/-! ## Futures that nothing follows -/

/-- Whether nothing is done once some future is done. -/
def IsQuiet (b : Backend) : Prop :=
  ∀ (n : Nat) (t : Ticket), b.tickets[n]? = some t → t.future.IsSilent

theorem IsQuiet.of_tickets (h : b.IsQuiet) (ht : c.tickets = b.tickets) : c.IsQuiet := by
  rwa [IsQuiet, ht]

theorem IsQuiet.of_append (h : b.IsQuiet) (ht : c.tickets = b.tickets ++ [t])
    (hsilent : t.future.IsSilent) : c.IsQuiet := by
  intro n u hu
  rw [ht] at hu
  rcases getElem?_concat_eq_some_iff.mp hu with hu | ⟨-, rfl⟩
  · exact h n u hu
  · exact hsilent

theorem IsQuiet.of_modify (h : b.IsQuiet) {f : Ticket → Ticket}
    (ht : c.tickets = b.tickets.modify n f)
    (hf : ∀ t, t.future.IsSilent → (f t).future.IsSilent) : c.IsQuiet := by
  intro m u hu
  rw [ht, List.getElem?_modify] at hu
  obtain ⟨v, hv, rfl⟩ := Option.map_eq_some_iff.mp hu
  by_cases hm : n = m
  · simpa [hm] using hf v (h m v hv)
  · simpa [hm] using h m v hv

theorem modify_congr {α : Type} {f g : α → α} {xs : List α}
    (h : ∀ x, xs[n]? = some x → f x = g x) : xs.modify n f = xs.modify n g := by
  apply List.ext_getElem?
  intro m
  simp only [List.getElem?_modify]
  by_cases hm : n = m
  · subst hm
    cases hx : xs[n]? with
    | none => rfl
    | some x => simp [h x hx]
  · simp [hm]

theorem modify_of_fixed {α : Type} {f : α → α} {xs : List α}
    (h : ∀ x, xs[n]? = some x → f x = x) : xs.modify n f = xs := by
  apply List.ext_getElem?
  intro m
  rw [List.getElem?_modify]
  by_cases hm : n = m
  · subst hm
    cases hx : xs[n]? with
    | none => rfl
    | some x => simp [h x hx]
  · cases xs[m]? <;> simp [hm]

theorem exists_cancel_eq (h : b.IsQuiet) (n : Nat) :
    ∃ events, (b.cancel n).1 =
      { b with tickets := b.tickets.modify n Ticket.cancelled, events } := by
  cases ht : b.tickets[n]? with
  | none =>
    have hsame : b.tickets.modify n Ticket.cancelled = b.tickets :=
      modify_of_fixed fun t hn => by simp [ht] at hn
    exact ⟨b.events, by simp only [cancel, ht, hsame]⟩
  | some t =>
    have hsame : b.tickets.modify n Ticket.cancelled = (b.setFuture n t.future.cancel.1).tickets :=
      modify_congr fun u hu => by
        obtain rfl := Option.some.inj (ht.symm.trans hu)
        rfl
    obtain ⟨events, he, -⟩ := exists_settled_eq ht t.future.cancel.1 (h n t ht).cancel.2
    exact ⟨events, by simp only [cancel, ht, he, hsame]⟩

theorem exists_deliver_eq (h : b.IsQuiet) (outcome : Attempt Outcome) (n : Nat) :
    ∃ events, b.deliver outcome n =
      { b with tickets := b.tickets.modify n (Ticket.given outcome), events } := by
  cases ht : b.tickets[n]? with
  | none =>
    have hsame : b.tickets.modify n (Ticket.given outcome) = b.tickets :=
      modify_of_fixed fun t hn => by simp [ht] at hn
    exact ⟨b.events, by simp only [deliver, ht, hsame]⟩
  | some t =>
    cases hd : t.future.deliver? outcome with
    | none =>
      have hsame : b.tickets.modify n (Ticket.given outcome) = b.tickets :=
        modify_of_fixed fun u hu => by
          obtain rfl := Option.some.inj (ht.symm.trans hu)
          simp only [Ticket.given, hd]
      exact ⟨b.events, by simp only [deliver, ht, hd, hsame]⟩
    | some result =>
      have hsame : b.tickets.modify n (Ticket.given outcome) =
          (b.setFuture n result.1).tickets :=
        modify_congr fun u hu => by
          obtain rfl := Option.some.inj (ht.symm.trans hu)
          simp only [Ticket.given, hd]
      obtain ⟨events, he, -⟩ :=
        exists_settled_eq ht result.1 ((h n t ht).deliver? hd).2
      exact ⟨events, by simp only [deliver, ht, hd, he, hsame]⟩

theorem isSilent_cancelled (h : t.future.IsSilent) : t.cancelled.future.IsSilent := h.cancel.1

theorem isSilent_given (outcome : Attempt Outcome) (h : t.future.IsSilent) :
    (t.given outcome).future.IsSilent := by
  unfold Ticket.given
  cases hd : t.future.deliver? outcome with
  | none => exact h
  | some result => exact (h.deliver? hd).1

/-- A call leaves the worker where it is, and nothing follows its future. -/
theorem isQuiet_ask (h : b.IsQuiet) (label : Text) (call : Call) :
    (b.ask label call).IsQuiet ∧ (b.ask label call).stage = b.stage := by
  have hpending : Future.IsSilent (⟨.pending, [.nil]⟩ : Future (Attempt Outcome) Script) := by
    simp [Future.IsSilent]
  have hdone (outcome : Attempt Outcome) :
      Future.IsSilent (⟨.finished outcome, []⟩ : Future (Attempt Outcome) Script) := by
    simp [Future.IsSilent]
  cases ha : call.admission with
  | raised fault =>
    rw [ask_of_raised ha]
    exact ⟨h.of_tickets rfl, rfl⟩
  | settled outcome =>
    have hissue : b.issue label call =
        ((b.handOut label none (.finished outcome)).1, .ok b.tickets.length) := by
      simp only [issue, ha, handOut]
    obtain ⟨events, he⟩ := ask_of_isDone hissue rfl rfl
    rw [he]
    exact ⟨h.of_append rfl (hdone outcome), rfl⟩
  | dispatch job =>
    cases hb : (b.registries job.operation.family).batch? job.key with
    | some batch =>
      have hasked := asked_of_joined ha hb label
      exact ⟨h.of_append hasked.tickets hpending, hasked.stage⟩
    | none =>
      cases hq : b.queue.closed with
      | false =>
        have hasked := asked_of_accepted ha hb hq label
        exact ⟨h.of_append hasked.tickets hpending, hasked.stage⟩
      | true =>
        have hasked := asked_of_refused ha hb hq label
        exact ⟨h.of_append hasked.tickets (hdone _), hasked.stage⟩

/-! ## What callers do -/

theorem view_close (s : Slot) (b : Backend) :
    ({ b with queue := b.queue.close } : Backend).view s = { b.view s with closed := true } := by
  refine View.ext (WorkQueue.name_close b.queue) (WorkQueue.closed_close b.queue) rfl rfl rfl rfl
    ?_ rfl
  simp only [view, outstanding_close]

theorem isQuiet_perform {script : Script} (hscript : script.IsSilent) (hq : b.IsQuiet) :
    (b.perform script).IsQuiet := by
  induction script generalizing b with
  | nil => exact hq
  | close rest ih => exact ih hscript (hq.of_tickets rfl)
  | call label call next rest _ ih =>
    obtain ⟨rfl, hscript⟩ := hscript
    rw [perform_call]
    exact ih hscript (isQuiet_ask hq label call).1

theorem view_perform {script : Script} (hscript : script.IsSilent) (hq : b.IsQuiet)
    (hs : ∀ outcome ns, b.stage ≠ .delivering outcome ns) (hlt : (b.view s).IsBounded) :
    (b.perform script).view s = (b.view s).perform s script := by
  induction script generalizing b with
  | nil => rfl
  | close rest ih =>
    have hclosed := view_close s b
    rw [View.perform, ← hclosed]
    exact ih hscript (hq.of_tickets rfl) hs (hclosed ▸ hlt)
  | call label call next rest _ ih =>
    obtain ⟨rfl, hscript⟩ := hscript
    obtain ⟨hquiet, hstage⟩ := isQuiet_ask hq label call
    have hview := view_ask hs hlt label call
    rw [perform_call, View.perform, ← hview]
    exact ih hscript hquiet (hstage ▸ hs) (hview ▸ hlt.ask s label call)

theorem isQuiet_cancel (hq : b.IsQuiet) (n : Nat) : (b.cancel n).1.IsQuiet := by
  obtain ⟨events, he⟩ := exists_cancel_eq hq n
  rw [he]
  exact hq.of_modify rfl fun t => isSilent_cancelled

theorem view_cancel (hq : b.IsQuiet) (hs : ∀ outcome ns, b.stage ≠ .delivering outcome ns)
    (n : Nat) (s : Slot) : (b.cancel n).1.view s = (b.view s).cancel n := by
  obtain ⟨events, he⟩ := exists_cancel_eq hq n
  rw [he]
  refine View.ext rfl rfl ?_ rfl ?_ rfl rfl rfl
  · simp [view, View.cancel]
  · simp only [view, View.cancel, deliverRest_of_not_delivering hs]
    exact shown_modify Ticket.cancelled rfl rfl

end Backend

end SubscriptionClient
