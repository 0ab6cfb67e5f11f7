import SubscriptionClient.Proofs.Backend.Promises

/-!
# Cancelling

A cancellation concerns nobody else. Two runs that differ in one cancellation, of a future that
nothing follows, differ in that future and in when it is reported, and in nothing else.
-/

namespace SubscriptionClient

/-- Whether nothing is done once a future is done. -/
def Future.IsSilent {α : Type} (f : Future α Script) : Prop := ∀ s ∈ f.followers, s = .nil

/-- The states of a future without its cancellation and with it. -/
inductive FutureState.Trails {α : Type} : FutureState α → FutureState α → Prop where
  | pending : Trails .pending .cancelled
  | finished (a : α) : Trails (.finished a) .cancelNoticed
  | cancelled : Trails .cancelled .cancelled
  | noticed : Trails .cancelNoticed .cancelNoticed

namespace Future

variable {α : Type} {f g : Future α Script}

theorem IsSilent.cancel (h : f.IsSilent) :
    f.cancel.1.IsSilent ∧ ∀ s ∈ f.cancel.2, s = .nil :=
  ⟨fun s hs => h s (mem_followers_of_cancel (.inl hs)),
    fun s hs => h s (mem_followers_of_cancel (.inr hs))⟩

theorem IsSilent.deliver? (h : f.IsSilent) {a : α} {scripts : List Script}
    (hd : f.deliver? a = some (g, scripts)) : g.IsSilent ∧ ∀ s ∈ scripts, s = .nil :=
  ⟨fun s hs => h s (mem_followers_of_deliver? hd (.inl hs)),
    fun s hs => h s (mem_followers_of_deliver? hd (.inr hs))⟩

theorem isCancelled_cancel (h : f.state.outcome? = none) :
    f.cancel.1.state.isCancelled = true := by
  obtain ⟨state, followers⟩ := f
  cases state with
  | pending | cancelled | cancelNoticed => rfl
  | finished a => simp [FutureState.outcome?] at h

theorem trails_cancel (h : f.state.Trails g.state) : f.cancel.1.state.Trails g.cancel.1.state := by
  obtain ⟨state, followers⟩ := f
  obtain ⟨state', followers'⟩ := g
  cases h with
  | pending | cancelled => exact .cancelled
  | finished a => exact .finished a
  | noticed => exact .noticed

/-- A delivery reaches both futures or none of them. -/
theorem trails_deliver? (h : f.state.Trails g.state) (a : α) :
    (f.deliver? a = none ∧ g.deliver? a = none) ∨
      ∃ f' scripts g' scripts', f.deliver? a = some (f', scripts) ∧
        g.deliver? a = some (g', scripts') ∧ f'.state.Trails g'.state := by
  obtain ⟨state, followers⟩ := f
  obtain ⟨state', followers'⟩ := g
  cases h with
  | pending => exact .inr ⟨_, _, _, _, rfl, rfl, .finished a⟩
  | cancelled => exact .inr ⟨_, _, _, _, rfl, rfl, .noticed⟩
  | finished | noticed => exact .inl ⟨rfl, rfl⟩

end Future

/-- Whether a future with some label is reported to be done. -/
def Event.reports (label : Text) : Event → Bool
  | done l _ => l = label
  | _ => false

/-- What happens apart from reports of a label. -/
def unreported (label : Text) (events : List Event) : List Event :=
  events.filter fun e => !e.reports label

/-- Whether only one ticket is different, by its cancellation. -/
structure TicketsAlike (n : Nat) (label : Text) (ts us : List Ticket) : Prop where
  length_eq : us.length = ts.length
  others {m : Nat} : m ≠ n → us[m]? = ts[m]?
  own : ∃ t u, ts[n]? = some t ∧ us[n]? = some u ∧ t.label = label ∧ u.label = label ∧
    t.future.IsSilent ∧ u.future.IsSilent ∧ t.future.state.Trails u.future.state

namespace TicketsAlike

variable {n m : Nat} {label : Text} {ts us : List Ticket}

theorem lt_length (h : TicketsAlike n label ts us) : n < ts.length := by
  obtain ⟨t, -, ht, -⟩ := h.own
  exact (List.getElem?_eq_some_iff.mp ht).1

theorem concat (h : TicketsAlike n label ts us) (t : Ticket) :
    TicketsAlike n label (ts ++ [t]) (us ++ [t]) where
  length_eq := by simp [h.length_eq]
  others := by
    intro m hm
    rcases Nat.lt_or_ge m ts.length with hlt | hge
    · rw [List.getElem?_append_left hlt, List.getElem?_append_left (h.length_eq ▸ hlt),
        h.others hm]
    · rw [List.getElem?_append_right hge, List.getElem?_append_right (h.length_eq ▸ hge),
        h.length_eq]
  own := by
    obtain ⟨t, u, ht, hu, hrest⟩ := h.own
    have hlt := h.lt_length
    refine ⟨t, u, ?_, ?_, hrest⟩
    · rw [List.getElem?_append_left hlt, ht]
    · rw [List.getElem?_append_left (h.length_eq ▸ hlt), hu]

theorem modify_of_ne (h : TicketsAlike n label ts us) (hm : m ≠ n) (f : Ticket → Ticket) :
    TicketsAlike n label (ts.modify m f) (us.modify m f) where
  length_eq := by simp [h.length_eq]
  others := by
    intro k hk
    rw [List.getElem?_modify, List.getElem?_modify, h.others hk]
  own := by
    obtain ⟨t, u, ht, hu, hrest⟩ := h.own
    refine ⟨t, u, ?_, ?_, hrest⟩
    · rw [List.getElem?_modify_ne _ _ hm, ht]
    · rw [List.getElem?_modify_ne _ _ hm, hu]

end TicketsAlike

namespace Backend

/-- Whether two states differ in the ticket of a future that is cancelled in the second, and in its
reports, and in nothing else. -/
def Alike (n : Nat) (label : Text) (b c : Backend) : Prop :=
  ∃ tickets events, c = { b with tickets, events } ∧
    TicketsAlike n label b.tickets tickets ∧ unreported label events = unreported label b.events

variable {E : Surroundings} {n m : Nat} {label : Text} {b c : Backend}

namespace Alike

theorem note (h : Alike n label b c) (e : Event) : Alike n label (b.note e) (c.note e) := by
  obtain ⟨tickets, events, rfl, htickets, hevents⟩ := h
  refine ⟨tickets, events ++ [e], rfl, htickets, ?_⟩
  simp only [unreported, Backend.note, List.filter_append] at hevents ⊢
  rw [hevents]

theorem getElem?_eq (h : Alike n label b c) (hm : m ≠ n) : c.tickets[m]? = b.tickets[m]? := by
  obtain ⟨tickets, events, rfl, htickets, -⟩ := h
  exact htickets.others hm

theorem setFuture (h : Alike n label b c) (hm : m ≠ n) (future : Future (Attempt Outcome) Script) :
    Alike n label (b.setFuture m future) (c.setFuture m future) := by
  obtain ⟨tickets, events, rfl, htickets, hevents⟩ := h
  exact ⟨_, events, rfl, htickets.modify_of_ne hm _, hevents⟩

theorem noteDone (h : Alike n label b c) (hm : m ≠ n) :
    Alike n label (b.noteDone m) (c.noteDone m) := by
  unfold Backend.noteDone
  rw [h.getElem?_eq hm]
  cases b.tickets[m]? with
  | none => exact h
  | some t => exact h.note _

/-! ## Calls and scripts -/

theorem handOut (h : Alike n label b c) (other : Text) (key : Option Text)
    (state : FutureState (Attempt Outcome)) :
    Alike n label (b.handOut other key state).1 (c.handOut other key state).1 ∧
      (c.handOut other key state).2 = (b.handOut other key state).2 := by
  obtain ⟨tickets, events, rfl, htickets, hevents⟩ := h
  exact ⟨⟨_, events, rfl, htickets.concat _, hevents⟩, htickets.length_eq⟩

theorem enrol (h : Alike n label b c) (other : Text) (job : Job) :
    Alike n label (b.enrol other job).1 (c.enrol other job).1 := by
  obtain ⟨tickets, events, rfl, htickets, hevents⟩ := h
  refine ⟨_, events, ?_, htickets.concat ⟨other, some job.key, .pending⟩, hevents⟩
  simp only [Backend.enrol, Backend.handOut, setRegistry, record, htickets.length_eq,
    Future.pending]

theorem dispatch (h : Alike n label b c) (other : Text) (job : Job) :
    Alike n label (b.dispatch other job).1 (c.dispatch other job).1 ∧
      (c.dispatch other job).2 = (b.dispatch other job).2 := by
  have henrol := h.enrol other job
  obtain ⟨tickets, events, rfl, htickets, hevents⟩ := h
  have hlength : Except.ok (ε := Fault) tickets.length = .ok b.tickets.length :=
    congrArg _ htickets.length_eq
  cases hb : (b.registries job.operation.family).batch? job.key with
  | some batch =>
    rw [dispatch_of_joined other hb, dispatch_of_joined (b := { b with tickets, events }) other hb]
    exact ⟨henrol, hlength⟩
  | none =>
    cases hq : b.queue.closed with
    | false =>
      have hsubmit := WorkQueue.submit_of_open hq job
      rw [dispatch_of_accepted other hb hsubmit,
        dispatch_of_accepted (b := { b with tickets, events }) other hb hsubmit]
      refine ⟨?_, hlength⟩
      obtain ⟨tickets', events', heq, htickets', hevents'⟩ := henrol
      rw [heq]
      exact ⟨tickets', events', rfl, htickets', hevents'⟩
    | true =>
      rw [dispatch_of_refused other hb hq,
        dispatch_of_refused (b := { b with tickets, events }) other hb hq]
      refine ⟨⟨_, events, ?_, htickets.concat _, hevents⟩, hlength⟩
      simp only [refuse, htickets.length_eq]

theorem issue (h : Alike n label b c) (other : Text) (call : Call) :
    Alike n label (b.issue other call).1 (c.issue other call).1 ∧
      (c.issue other call).2 = (b.issue other call).2 := by
  cases ha : call.admission with
  | raised fault =>
    simp only [Backend.issue, ha]
    exact ⟨h.note _, trivial⟩
  | settled outcome =>
    obtain ⟨halike, hn⟩ := h.handOut other none (.finished outcome)
    simp only [Backend.issue, ha, hn]
    exact ⟨halike, trivial⟩
  | dispatch job =>
    obtain ⟨halike, hresult⟩ := h.dispatch other job
    rcases hb : b.dispatch other job with ⟨b', result⟩
    rcases hc : c.dispatch other job with ⟨c', result'⟩
    rw [hb, hc] at halike hresult
    obtain rfl : result' = result := hresult
    cases result' with
    | ok k =>
      simp only [Backend.issue, ha, hb, hc]
      exact ⟨halike, trivial⟩
    | error fault =>
      simp only [Backend.issue, ha, hb, hc]
      exact ⟨halike.note _, trivial⟩

theorem length_eq (h : Alike n label b c) : c.tickets.length = b.tickets.length := by
  obtain ⟨tickets, events, rfl, htickets, -⟩ := h
  exact htickets.length_eq

theorem lt_length (h : Alike n label b c) : n < b.tickets.length := by
  obtain ⟨tickets, events, rfl, htickets, -⟩ := h
  exact htickets.lt_length

/-- A call hands out a future of its own, if any. -/
theorem issue_ne (h : Alike n label b c) {other : Text} {call : Call} {k : Nat} {b' : Backend}
    (hissue : b.issue other call = (b', .ok k)) : k ≠ n := by
  have hlt := h.lt_length
  rcases issue_cases .unrestricted other call b with ⟨fault, -, hraised⟩ | ⟨d, t, hok, -⟩
  · rw [hraised] at hissue
    cases (Prod.mk.inj hissue).2
  · rw [hok] at hissue
    obtain rfl := Except.ok.inj (Prod.mk.inj hissue).2
    exact Nat.ne_of_gt hlt

theorem followedBy? (h : Alike n label b c) (hm : m ≠ n) (next : Script) :
    (b.followedBy? m next = none ∧ c.followedBy? m next = none) ∨
      ∃ b' c', b.followedBy? m next = some b' ∧ c.followedBy? m next = some c' ∧
        Alike n label b' c' := by
  unfold Backend.followedBy?
  rw [h.getElem?_eq hm]
  cases ht : b.tickets[m]? with
  | none => exact .inl ⟨rfl, rfl⟩
  | some t =>
    cases hf : t.future.followedBy? next with
    | none => simp [hf]
    | some future => exact .inr ⟨_, _, by simp [hf], by simp [hf], h.setFuture hm future⟩

theorem perform (h : Alike n label b c) (s : Script) :
    Alike n label (b.perform s) (c.perform s) := by
  induction s generalizing b c with
  | nil => exact h
  | close rest ih =>
    apply ih
    obtain ⟨tickets, events, rfl, htickets, hevents⟩ := h
    exact ⟨tickets, events, rfl, htickets, hevents⟩
  | call other call next rest ihNext ihRest =>
    obtain ⟨hissued, hresult⟩ := h.issue other call
    rcases hb : b.issue other call with ⟨b', result⟩
    rcases hc : c.issue other call with ⟨c', result'⟩
    rw [hb, hc] at hissued hresult
    obtain rfl : result' = result := hresult
    cases result' with
    | error fault =>
      rw [Backend.perform, Backend.perform, hb, hc]
      exact ihRest hissued
    | ok k =>
      have hk := h.issue_ne hb
      simp only [Backend.perform, hb, hc]
      rcases hissued.followedBy? hk next with ⟨hb', hc'⟩ | ⟨b'', c'', hb', hc', hregistered⟩
      · rw [hb', hc']
        exact ihRest (ihNext (hissued.noteDone hk))
      · rw [hb', hc']
        exact ihRest hregistered

theorem conclude (h : Alike n label b c) (hm : m ≠ n) (scripts : List Script) :
    Alike n label (b.conclude m scripts) (c.conclude m scripts) := by
  induction scripts generalizing b c with
  | nil => exact h
  | cons s scripts ih => exact ih ((h.noteDone hm).perform s)

end Alike

/-! ## The future itself -/

/-- A report of a future that nothing follows changes only what is reported. -/
theorem conclude_of_silent {scripts : List Script} (hs : ∀ s ∈ scripts, s = .nil) {t : Ticket}
    (ht : b.tickets[n]? = some t) :
    ∃ events, b.conclude n scripts = { b with events } ∧
      unreported t.label events = unreported t.label b.events := by
  induction scripts generalizing b with
  | nil => exact ⟨b.events, rfl, rfl⟩
  | cons s scripts ih =>
    obtain ⟨hnil, hrest⟩ := List.forall_mem_cons.mp hs
    have hnoted : b.noteDone n = b.note (.done t.label t.future.state) := by
      simp only [noteDone, ht]
    obtain ⟨events, hevents, hunreported⟩ := ih hrest (b := b.noteDone n) (by rw [hnoted]; exact ht)
    rw [hnoted] at hevents hunreported
    refine ⟨events, ?_, ?_⟩
    · rw [conclude, List.foldl_cons, hnoted, hnil]
      exact hevents
    · rw [hunreported]
      simp [unreported, note, Event.reports]

theorem exists_settled_eq {t : Ticket} (ht : b.tickets[n]? = some t)
    (future : Future (Attempt Outcome) Script) {scripts : List Script}
    (hs : ∀ s ∈ scripts, s = .nil) :
    ∃ events, (b.setFuture n future).conclude n scripts =
        { b with tickets := (b.setFuture n future).tickets, events } ∧
      unreported t.label events = unreported t.label b.events :=
  conclude_of_silent (t := { t with future }) hs (getElem?_setFuture_self ht future)

namespace Alike

theorem settle (h : Alike n label b c) {future future' : Future (Attempt Outcome) Script}
    (hf : future.IsSilent) (hf' : future'.IsSilent) (hstates : future.state.Trails future'.state)
    {scripts scripts' : List Script} (hs : ∀ s ∈ scripts, s = .nil)
    (hs' : ∀ s ∈ scripts', s = .nil) :
    Alike n label ((b.setFuture n future).conclude n scripts)
      ((c.setFuture n future').conclude n scripts') := by
  obtain ⟨tickets, events, rfl, htickets, hevents⟩ := h
  obtain ⟨t, u, ht, hu, rfl, hlabel, -⟩ := htickets.own
  obtain ⟨es, hes, hunreported⟩ := exists_settled_eq ht future hs
  obtain ⟨es', hes', hunreported'⟩ :=
    exists_settled_eq (b := { b with tickets, events }) hu future' hs'
  rw [hes, hes']
  rw [hlabel] at hunreported'
  refine ⟨_, es', rfl, ⟨?_, fun hm => ?_, ?_⟩, ?_⟩
  · rw [length_setFuture, length_setFuture, htickets.length_eq]
  · rw [getElem?_setFuture_of_ne hm.symm, getElem?_setFuture_of_ne hm.symm, htickets.others hm]
  · exact ⟨_, _, getElem?_setFuture_self ht future, getElem?_setFuture_self hu future', rfl, hlabel, hf, hf',
      hstates⟩
  · rw [hunreported', hunreported, hevents]

theorem cancel (h : Alike n label b c) (m : Nat) :
    Alike n label (b.cancel m).1 (c.cancel m).1 := by
  have hall := h
  by_cases hm : m = n
  · obtain ⟨tickets, events, rfl, htickets, hevents⟩ := h
    obtain ⟨t, u, ht, hu, -, -, hsilent, hsilent', hstates⟩ := htickets.own
    have hu' : ({ b with tickets, events } : Backend).tickets[n]? = some u := hu
    simp only [Backend.cancel, hm, ht, hu']
    exact hall.settle hsilent.cancel.1 hsilent'.cancel.1 (Future.trails_cancel hstates)
      hsilent.cancel.2 hsilent'.cancel.2
  · unfold Backend.cancel
    rw [h.getElem?_eq hm]
    cases b.tickets[m]? with
    | none => exact h
    | some t => exact (h.setFuture hm _).conclude hm _

theorem deliver (h : Alike n label b c) (outcome : Attempt Outcome) (m : Nat) :
    Alike n label (b.deliver outcome m) (c.deliver outcome m) := by
  have hall := h
  by_cases hm : m = n
  · obtain ⟨tickets, events, rfl, htickets, hevents⟩ := h
    obtain ⟨t, u, ht, hu, -, -, hsilent, hsilent', hstates⟩ := htickets.own
    have hu' : ({ b with tickets, events } : Backend).tickets[n]? = some u := hu
    rcases Future.trails_deliver? hstates outcome with
      ⟨hf, hg⟩ | ⟨f, scripts, g, scripts', hf, hg, htrails⟩
    · simp only [Backend.deliver, hm, ht, hu', hf, hg]
      exact hall
    · simp only [Backend.deliver, hm, ht, hu', hf, hg]
      obtain ⟨hsf, hs⟩ := hsilent.deliver? hf
      obtain ⟨hsg, hs'⟩ := hsilent'.deliver? hg
      exact hall.settle hsf hsg htrails hs hs'
  · unfold Backend.deliver
    rw [h.getElem?_eq hm]
    cases b.tickets[m]? with
    | none => exact h
    | some t =>
      cases hd : t.future.deliver? outcome with
      | none =>
        simp only [hd]
        exact h
      | some result =>
        simp only [hd]
        exact (h.setFuture hm _).conclude hm _

/-! ## The worker -/

theorem answer (h : Alike n label b c) (job : Job) (r : Response) :
    Alike n label (b.answer job r) (c.answer job r) := by
  obtain ⟨tickets, events, rfl, htickets, hevents⟩ := h
  unfold Backend.answer
  cases hd : (b.registries job.operation.family).drain? job.key with
  | some drained =>
    simp only [hd]
    exact ⟨tickets, events, rfl, htickets, hevents⟩
  | none =>
    simp only [hd]
    exact ⟨tickets, events, rfl, htickets, hevents⟩

theorem send (h : Alike n label b c) (job : Job) : Alike n label (b.send job) (c.send job) := by
  have hall := h
  obtain ⟨tickets, events, rfl, htickets, hevents⟩ := h
  cases hp : job.operation.exchange.prepare b.headers with
  | ok sent =>
    obtain ⟨tickets', events', hnoted, htickets', hevents'⟩ := hall.note (.sent sent)
    simp only [Backend.send, hp]
    rw [hnoted]
    exact ⟨tickets', events', rfl, htickets', hevents'⟩
  | error r =>
    simp only [Backend.send, hp]
    exact hall.answer job r

theorem work (h : Alike n label b c) (transport : Sent → Reply) :
    Alike n label (b.work transport) (c.work transport) := by
  have hall := h
  obtain ⟨tickets, events, rfl, htickets, hevents⟩ := h
  cases hw : b.queue.worker with
  | busy job =>
    cases hs : b.stage with
    | fresh =>
      simp only [Backend.work, hw, hs]
      exact hall.send job
    | awaiting sent =>
      cases hr : (transport sent).response? with
      | ok r =>
        simp only [Backend.work, hw, hs, hr]
        exact hall.answer job r
      | error fault =>
        simp only [Backend.work, hw, hs, hr]
        exact ⟨tickets, events, rfl, htickets, hevents⟩
    | delivering outcome ns =>
      cases ns with
      | nil =>
        simp only [Backend.work, hw, hs]
        exact ⟨tickets, events, rfl, htickets, hevents⟩
      | cons m ns =>
        have hnext : Alike n label { b with stage := .delivering outcome ns }
            { b with tickets, events, stage := .delivering outcome ns } :=
          ⟨tickets, events, rfl, htickets, hevents⟩
        simp only [Backend.work, hw, hs]
        exact hnext.deliver outcome m
  | absent | idle | gone =>
    simp only [Backend.work, hw]
    exact ⟨tickets, events, rfl, htickets, hevents⟩

theorem act (h : Alike n label b c) (action : Action) :
    Alike n label (b.act action) (c.act action) := by
  cases action with
  | run s => exact h.perform s
  | cancel m => exact h.cancel m
  | work transport => exact h.work transport
  | clearCaches =>
    have hclearable : c.clearable = b.clearable := by
      obtain ⟨tickets, events, rfl, -⟩ := h
      rfl
    rw [Backend.act, Backend.act, clearCaches, clearCaches, hclearable]
    split
    · exact h.note .cleared
    · exact h

theorem run (h : Alike n label b c) (actions : List Action) :
    Alike n label (b.run actions) (c.run actions) := by
  induction actions generalizing b c with
  | nil => exact h
  | cons action actions ih => exact ih (h.act action)

end Alike

/-! ## The main statement -/

theorem cancel_of_isDone {t : Ticket} (ht : b.tickets[n]? = some t)
    (hdone : t.future.isDone = true) : (b.cancel n).1 = b := by
  have hset : b.setFuture n t.future = b := by
    have htickets : (b.setFuture n t.future).tickets = b.tickets := by
      apply List.ext_getElem?
      intro m
      by_cases hm : n = m
      · rw [← hm, getElem?_setFuture_self ht, ht]
      · rw [getElem?_setFuture_of_ne hm]
    calc b.setFuture n t.future
      _ = { b with tickets := (b.setFuture n t.future).tickets } := rfl
      _ = b := by rw [htickets]
  simp only [cancel, ht, Future.cancel_of_isDone hdone]
  exact hset

theorem alike_cancel {t : Ticket} (ht : b.tickets[n]? = some t) (hsilent : t.future.IsSilent)
    (hpending : t.future.state = .pending) : Alike n t.label b (b.cancel n).1 := by
  have hcancel : t.future.cancel = (⟨.cancelled, []⟩, t.future.followers) := by
    simp only [Future.cancel, hpending]
  obtain ⟨events, hevents, hunreported⟩ := exists_settled_eq ht ⟨.cancelled, []⟩ hsilent
  simp only [cancel, ht, hcancel, hevents]
  refine ⟨_, events, rfl, ⟨length_setFuture n _ b, fun hm => ?_, ?_⟩, hunreported⟩
  · exact getElem?_setFuture_of_ne hm.symm _ b
  · have hnone : Future.IsSilent (⟨.cancelled, []⟩ : Future (Attempt Outcome) Script) := by
      simp [Future.IsSilent]
    refine ⟨t, _, ht, getElem?_setFuture_self ht _, rfl, rfl, hsilent, hnone, ?_⟩
    rw [hpending]
    exact .pending

/-- What a cancellation leaves as it is: `b` is without it, and `c` is with it. -/
structure Unseen (n : Nat) (label : Text) (b c : Backend) : Prop where
  requests : c.requests = b.requests
  /-- The keys in flight are the same, with the same waiters in each batch. -/
  registries : c.registries = b.registries
  queue : c.queue = b.queue
  stage : c.stage = b.stage
  others {m : Nat} : m ≠ n → c.tickets[m]? = b.tickets[m]?
  length_eq : c.tickets.length = b.tickets.length
  /-- What happens is the same but for when the future is reported. -/
  events : unreported label c.events = unreported label b.events
  journal : c.journal = b.journal
  escaped : c.escaped = b.escaped

theorem requests_unreported (label : Text) (b : Backend) :
    ({ b with events := unreported label b.events } : Backend).requests = b.requests := by
  simp only [requests, unreported, List.filterMap_filter]
  congr 1
  funext e
  cases e <;> simp [Event.reports]

theorem Alike.unseen (h : Alike n label b c) : Unseen n label b c := by
  obtain ⟨tickets, events, rfl, htickets, hevents⟩ := h
  refine ⟨?_, rfl, rfl, rfl, htickets.others, htickets.length_eq, hevents, rfl, rfl⟩
  have hboth := requests_unreported label { b with tickets, events }
  rw [← requests_unreported label b, ← hboth]
  simp only [requests, hevents]

theorem unseen_refl (n : Nat) (label : Text) (b : Backend) : Unseen n label b b :=
  ⟨rfl, rfl, rfl, rfl, fun _ => rfl, rfl, rfl, rfl, rfl⟩

theorem run_append (b : Backend) (actions actions' : List Action) :
    b.run (actions ++ actions') = (b.run actions).run actions' := List.foldl_append

theorem unseen_cancel {t : Ticket} (ht : b.tickets[n]? = some t) (hsilent : t.future.IsSilent)
    (actions : List Action) : Unseen n t.label (b.run actions) ((b.cancel n).1.run actions) := by
  cases hdone : t.future.isDone with
  | true =>
    rw [cancel_of_isDone ht hdone]
    exact unseen_refl n t.label _
  | false =>
    have hpending : t.future.state = .pending := by
      cases hs : t.future.state <;> simp_all [Future.isDone, FutureState.isDone]
    exact ((alike_cancel ht hsilent hpending).run actions).unseen

/-- From its cancellation on, a future stays as it is but for the notice of it. -/
theorem exists_state?_run_cancel {t : Ticket} (ht : b.tickets[n]? = some t)
    (hsilent : t.future.IsSilent) (actions : List Action) :
    ∃ s, ((b.cancel n).1.run actions).state? n = some s ∧
      t.future.cancel.1.state.Becomes s := by
  obtain ⟨events, hevents, -⟩ := exists_settled_eq ht t.future.cancel.1 hsilent.cancel.2
  have hticket : (b.cancel n).1.tickets[n]? = some { t with future := t.future.cancel.1 } := by
    simp only [cancel, ht, hevents]
    exact getElem?_setFuture_self ht _
  obtain ⟨t', ht', -, hbecomes⟩ :=
    (reaches_run (.unrestricted actions) (b.cancel n).1).ticket hticket
  exact ⟨t'.future.state, state?_eq_some_iff.mpr ⟨t', ht', rfl⟩, hbecomes⟩

/-- A future is cancelled between any two actions of a run, which may start in the middle of a
script. At every moment after that the run is as it is without the cancellation, but for that future:
it is cancelled, unless it had an outcome already. -/
theorem cancelling_is_unseen {a : Backend} {before : List Action} {n : Nat} {t : Ticket}
    (ht : (a.run before).tickets[n]? = some t) (hsilent : t.future.IsSilent)
    (after : List Action) :
    let kept := a.run (before ++ after)
    let cancelled := a.run (before ++ .cancel n :: after)
    Unseen n t.label kept cancelled ∧
      (∀ x, t.future.state = .finished x → cancelled.state? n = some (.finished x)) ∧
      (t.future.state.outcome? = none →
        ∃ s, cancelled.state? n = some s ∧ s.isCancelled = true) := by
  intro kept cancelled
  have hkept : kept = (a.run before).run after := run_append a before after
  have hcancelled : cancelled = ((a.run before).cancel n).1.run after :=
    run_append a before (.cancel n :: after)
  obtain ⟨s, hs, hbecomes⟩ := exists_state?_run_cancel ht hsilent after
  rw [hkept, hcancelled]
  refine ⟨unseen_cancel ht hsilent after, fun x hx => ?_, fun hnone => ⟨s, hs, ?_⟩⟩
  · have hdone : t.future.isDone = true := by
      rw [Future.isDone, hx]
      rfl
    rw [Future.cancel_of_isDone hdone, hx] at hbecomes
    rw [hs, hbecomes.eq_of_finished]
  · have hcancel := Future.isCancelled_cancel hnone
    rw [hbecomes.isCancelled_eq (Future.isDone_cancel t.future), hcancel]

/-- Two callers share a request, and the second gives up. -/
def secondGivesUp : List Action := twoCallers ++ [.cancel 1]

/-- When the first caller gives up as well, the request is sent nevertheless, and its batch is taken
out. -/
theorem cancelling_first_of_two_is_unseen :
    let after := List.replicate 5 (Action.work fun _ => .raised ⟨"TimeoutError".toText, []⟩)
    let a := start [] false "requests".toText
    let cancelled := a.run (secondGivesUp ++ .cancel 0 :: after)
    (∃ t, (a.run secondGivesUp).tickets[0]? = some t ∧ t.future.IsSilent ∧
      t.future.state.outcome? = none ∧
      Unseen 0 t.label (a.run (secondGivesUp ++ after)) cancelled ∧
      ∃ s, cancelled.state? 0 = some s ∧ s.isCancelled = true) ∧
    cancelled.requests.length = 1 ∧ cancelled.isResting = true := by
  intro after a cancelled
  have hall {t : Ticket} (ht : (a.run secondGivesUp).tickets[0]? = some t)
      (hsilent : t.future.IsSilent) := cancelling_is_unseen ht hsilent after
  have hsilent : Future.IsSilent (⟨.pending, [.nil]⟩ : Future (Attempt Outcome) Script) := by
    simp [Future.IsSilent]
  have hunseen := hall (t := ⟨"first".toText, _, ⟨.pending, [.nil]⟩⟩) rfl hsilent
  exact ⟨⟨_, rfl, hsilent, rfl, hunseen.1, hunseen.2.2 rfl⟩, by decide, by decide⟩

end Backend

end SubscriptionClient
