import SubscriptionClient.Proofs.Backend.Plays

/-!
# A failure harms only its own key

Two plays in which callers do the same differ in what the transport answers to the requests of one
family and key: it may fail there, raise, or give something malformed, after which the key is never
served again. All others are served alike, because the views without that family and key are the
same at every stop. A worker that is held may stand before different requests, so then the requests
are the same up to the one that is under way.
-/

namespace SubscriptionClient

namespace Backend

variable {E : Surroundings} {headers : List (Text × Text)} {clearable : Bool} {name : Text}
  {s : Slot} {b c : Backend}

/-! ## Requests without one family and key -/

/-- The accepted jobs that the worker has begun with. -/
def begun (b : Backend) : List Job := b.accepted.take (b.accepted.length - b.unbegun.length)

/-- What is sent for jobs, except for those of one family and key. -/
def sentBut (headers : List (Text × Text)) (s : Slot) (jobs : List Job) : List Sent :=
  (jobs.filter (·.slot ≠ s)).filterMap (Job.request? headers)

/-- The requests without those of one family and key. -/
def requestsBut (s : Slot) (b : Backend) : List Sent := sentBut b.headers s b.begun

/-- The request under way, unless it is one of that family and key. -/
def underWayBut (s : Slot) (b : Backend) : List Sent := sentBut b.headers s b.inFlight

theorem sentBut_append (headers : List (Text × Text)) (s : Slot) (jobs more : List Job) :
    sentBut headers s (jobs ++ more) = sentBut headers s jobs ++ sentBut headers s more := by
  simp [sentBut]

theorem begun_of_append {jobs : List Job} (h : b.accepted = jobs ++ b.unbegun) :
    b.begun = jobs := by
  simp [begun, h]

/-- The requests that reached the transport are those of the jobs begun with. -/
theorem requests_eq_of_reaches (h : Reaches E (start headers clearable name) b) :
    b.requests = b.begun.filterMap (Job.request? b.headers) := by
  obtain ⟨jobs, haccepted, hrequests⟩ := (isInOrder_of_reaches h).begun
  obtain rfl : b.headers = headers := h.headers_eq
  rw [begun_of_append haccepted, hrequests]

theorem requestsBut_eq (h : b.IsRegular headers clearable name) {done : List Job}
    (hdone : b.accepted = done ++ b.outstanding) (s : Slot) :
    b.requestsBut s = sentBut headers s done ++ b.underWayBut s := by
  rw [outstanding_eq_append, ← List.append_assoc] at hdone
  rw [requestsBut, underWayBut, begun_of_append hdone, sentBut_append, h.headers_eq]

/-- Of the jobs that are shown only the first can be under way. -/
theorem underWayBut_eq_or_nil (hb : b.headers = headers) (hc : c.headers = headers)
    (h : c.outstanding.filter (·.slot ≠ s) = b.outstanding.filter (·.slot ≠ s)) :
    b.underWayBut s = [] ∨ c.underWayBut s = [] ∨ c.underWayBut s = b.underWayBut s := by
  have hcases (d : Backend) : d.inFlight.filter (·.slot ≠ s) = [] ∨
      ∃ job, d.inFlight.filter (·.slot ≠ s) = [job] := by
    unfold inFlight
    split
    · rename_i job _ _ _
      by_cases hjob : job.slot = s <;> simp [hjob]
    · exact .inl rfl
  rw [outstanding_eq_append, outstanding_eq_append, List.filter_append, List.filter_append] at h
  rcases hcases b with hnone | ⟨job, hjob⟩
  · exact .inl (by rw [underWayBut, sentBut, hnone, List.filterMap_nil])
  rcases hcases c with hnone | ⟨job', hjob'⟩
  · exact .inr (.inl (by rw [underWayBut, sentBut, hnone, List.filterMap_nil]))
  rw [hjob, hjob'] at h
  obtain rfl := (List.cons.inj h).1
  exact .inr (.inr (by rw [underWayBut, underWayBut, sentBut, sentBut, hjob, hjob', hb, hc]))

/-- Backends that look alike have sent the same requests, unless one is ahead by the request that it
has under way. -/
theorem requestsBut_eq_or_ahead (hb : b.IsRegular headers clearable name)
    (hc : c.IsRegular headers clearable name) (hview : c.view s = b.view s) :
    c.requestsBut s = b.requestsBut s ∨ c.requestsBut s = b.requestsBut s ++ c.underWayBut s ∨
      b.requestsBut s = c.requestsBut s ++ b.underWayBut s := by
  obtain ⟨done, hdone⟩ := exists_done_of_reaches hb.reaches
  obtain ⟨done', hdone'⟩ := exists_done_of_reaches hc.reaches
  have haccepted : c.accepted.filter (·.slot ≠ s) = b.accepted.filter (·.slot ≠ s) :=
    congrArg View.accepted hview
  have houtstanding : c.outstanding.filter (·.slot ≠ s) = b.outstanding.filter (·.slot ≠ s) :=
    congrArg View.outstanding hview
  rw [hdone, hdone', List.filter_append, List.filter_append, houtstanding] at haccepted
  have hsame : sentBut headers s done' = sentBut headers s done := by
    rw [sentBut, sentBut, List.append_cancel_right haccepted]
  rw [requestsBut_eq hb hdone, requestsBut_eq hc hdone', hsame]
  rcases underWayBut_eq_or_nil hb.headers_eq hc.headers_eq houtstanding with h | h | h
  · exact .inr (.inl (by rw [h, List.append_nil]))
  · exact .inr (.inr (by rw [h, List.append_nil]))
  · exact .inl (by rw [h])

theorem underWayBut_of_released (ho : b.IsOrderly) (h : b.HasStopped false) (s : Slot) :
    b.underWayBut s = [] := by
  have hnone := outstanding_of_released ho h
  rw [underWayBut, (inFlight_and_unbegun_eq_nil hnone).1]
  rfl

end Backend

/-! ## Two plays -/

/-- Whether callers do the same in two turns, and the transport answers alike except to requests of
one family and key. -/
structure Turn.AlikeBut (headers : List (Text × Text)) (s : Slot) (u v : Turn) : Prop where
  deed : v.deed = u.deed
  simple : u.deed.IsSimple headers
  replies {call : Call} {job : Job} {sent : Sent} : call.admission = .dispatch job →
    job.slot ≠ s → job.request? headers = some sent → v.transport sent = u.transport sent

namespace View

variable {headers : List (Text × Text)} {v : View} {transport transport' : Sent → Reply}

theorem settle_congr (h : ∀ job ∈ v.outstanding, ∀ sent, job.request? headers = some sent →
    transport' sent = transport sent) :
    v.settle headers transport' = v.settle headers transport := by
  apply List.foldl_ext
  intro w job hjob
  have hreply : ((job.request? headers).map fun sent => (transport' sent).response?) =
      (job.request? headers).map fun sent => (transport sent).response? := by
    cases hr : job.request? headers with
    | none => rfl
    | some sent => rw [Option.map_some, Option.map_some, h job hjob sent hr]
  rw [answer, answer, hreply]

end View

namespace Play

variable {headers : List (Text × Text)} {clearable : Bool} {name : Text} {s : Slot} {p q : Play}
  {u v : Turn}

/-- What two plays have in common that differ in what happens to one family and key. -/
structure SameBut (s : Slot) (p q : Play) : Prop where
  held : q.held = p.held
  stopped : p.backend.HasStopped p.held ∧ q.backend.HasStopped q.held
  count : q.backend.tickets.length = p.backend.tickets.length
  enrolledIn : q.backend.enrolledIn s = p.backend.enrolledIn s
  /-- Every future that was not registered there has the same state. -/
  others {n : Nat} : n ∉ p.backend.enrolledIn s → q.backend.tickets[n]? = p.backend.tickets[n]?
  /-- A future that was registered elsewhere was not registered there. -/
  elsewhere {n : Nat} {s' : Slot} : s' ≠ s → n ∈ p.backend.enrolledIn s' →
    n ∉ p.backend.enrolledIn s
  batch? {s' : Slot} : s' ≠ s → q.backend.batch? s' = p.backend.batch? s'
  sent : p.backend.requests = p.backend.begun.filterMap (Job.request? p.backend.headers) ∧
    q.backend.requests = q.backend.begun.filterMap (Job.request? q.backend.headers)
  /-- The other requests are the same. A play that is held may be ahead by the one under way. -/
  requests : q.backend.requestsBut s = p.backend.requestsBut s ∨ p.held = true ∧
    (q.backend.requestsBut s = p.backend.requestsBut s ++ q.backend.underWayBut s ∨
      p.backend.requestsBut s = q.backend.requestsBut s ++ p.backend.underWayBut s)

/-- Two plays at a stop that look alike without one family and key. -/
structure AreAlike (headers : List (Text × Text)) (clearable : Bool) (name : Text) (s : Slot)
    (p q : Play) : Prop where
  left : p.IsAtStop headers clearable name
  right : q.IsAtStop headers clearable name
  held : q.held = p.held
  view : q.backend.view s = p.backend.view s

theorem AreAlike.turn (h : AreAlike headers clearable name s p q)
    (hu : Turn.AlikeBut headers s u v) :
    AreAlike headers clearable name s (p.turn u) (q.turn v) := by
  have hsimple : v.deed.IsSimple headers := hu.deed ▸ hu.simple
  obtain ⟨hleft, hview⟩ := h.left.turn hu.simple
  obtain ⟨hright, hview'⟩ := h.right.turn hsimple
  have hheld : (q.turn v).held = (p.turn u).held := by
    rw [held_turn, held_turn, hu.deed]
    cases u.deed <;> first | exact h.held | rfl
  refine ⟨hleft, hright, hheld, ?_⟩
  rw [hview s, hview' s, hheld, hu.deed, h.view]
  split
  · rfl
  · -- every job that is shown was asked for by a call, and is not one of the family and key
    apply View.settle_congr
    intro job hjob sent hsent
    obtain ⟨hregular, hacted⟩ := h.left.act hu.simple
    rw [← hacted s] at hjob
    obtain ⟨hjob, hslot⟩ := List.mem_filter.mp hjob
    obtain ⟨call, -, hadmission⟩ := hregular.exists_call hjob
    exact hu.replies hadmission (of_decide_eq_true hslot) hsent

theorem AreAlike.run {us vs : List Turn} (h : AreAlike headers clearable name s p q)
    (hus : List.Forall₂ (Turn.AlikeBut headers s) us vs) :
    AreAlike headers clearable name s (p.run us) (q.run vs) := by
  induction hus generalizing p q with
  | nil => exact h
  | cons hu _ ih => exact ih (h.turn hu)

theorem AreAlike.sameBut (h : AreAlike headers clearable name s p q) : SameBut s p q where
  held := h.held
  stopped := ⟨h.left.stopped, h.right.stopped⟩
  count := congrArg View.count h.view
  enrolledIn := congrArg View.omitted h.view
  others := by
    intro n hn
    have hn' : n ∉ q.backend.enrolledIn s := by
      rwa [show q.backend.enrolledIn s = p.backend.enrolledIn s from congrArg View.omitted h.view]
    have htickets : q.backend.stage.deliverRest (q.backend.shown s) n =
        p.backend.stage.deliverRest (p.backend.shown s) n :=
      congrFun (congrArg View.tickets h.view) n
    rwa [Backend.deliverRest_of_not_delivering h.left.not_delivering,
      Backend.deliverRest_of_not_delivering h.right.not_delivering, Backend.shown, Backend.shown,
      if_neg hn, if_neg hn'] at htickets
  elsewhere := by
    intro n s' hs hn hn'
    exact hs ((Backend.isEnrolledOnce_of_reaches h.left.regular.reaches).slot_eq hn hn')
  batch? := by
    intro s' hs
    have hbatch : (q.backend.view s).batch? s' = (p.backend.view s).batch? s' :=
      congrFun (congrArg View.batch? h.view) s'
    simpa only [Backend.view, if_neg hs] using hbatch
  sent := ⟨Backend.requests_eq_of_reaches h.left.regular.reaches,
    Backend.requests_eq_of_reaches h.right.regular.reaches⟩
  requests := by
    have hcases := Backend.requestsBut_eq_or_ahead h.left.regular h.right.regular h.view
    cases hheld : p.held with
    | true => exact hcases.imp_right fun hahead => ⟨rfl, hahead⟩
    | false =>
      have hp : p.backend.HasStopped false := hheld ▸ h.left.stopped
      have hq : q.backend.HasStopped false := hheld ▸ h.held ▸ h.right.stopped
      rw [Backend.underWayBut_of_released h.left.regular.isOrderly hp,
        Backend.underWayBut_of_released h.right.regular.isOrderly hq, List.append_nil,
        List.append_nil] at hcases
      rcases hcases with heq | heq | heq
      · exact .inl heq
      · exact .inl heq
      · exact .inl heq.symm

/-- Whatever the transport answers to the requests of one family and key, every other future fares
alike, and so do all other requests, of which only one under way may be ahead while the transport is
held. -/
theorem failures_stay_with_their_key (headers : List (Text × Text)) (clearable : Bool)
    (name : Text) (s : Slot) {us vs : List Turn}
    (h : List.Forall₂ (Turn.AlikeBut headers s) us vs) :
    SameBut s ((start headers clearable name).run us) ((start headers clearable name).run vs) := by
  have hstart := isAtStop_start headers clearable name
  have halike : AreAlike headers clearable name s (start headers clearable name)
      (start headers clearable name) := ⟨hstart, hstart, rfl, rfl⟩
  exact (halike.run h).sameBut

/-! ## A customer whose answers are malformed -/

/-- The family and key of those who ask for the customer "u". -/
def customer : Slot := (.customerInfo, "GET /subscribers/u".toText)

def ask (user : String) : Deed :=
  .run (.call user.toText (.getCustomerInfo (.text user.toText)) .nil .nil)

def wellFormed : Sent → Reply := fun _ => Session.defaultReply

/-- The answers about the customer are malformed. -/
def malformed (sent : Sent) : Reply :=
  if sent.method = .get ∧ sent.path = "/subscribers/u".toText then .nothing
  else Session.defaultReply

/-- The second call for the customer only joins the first if that was given something malformed. -/
def deeds : List Deed := [ask "u", .hold, ask "u", ask "v"]

def turns (transport : Sent → Reply) (ds : List Deed) : List Turn := ds.map fun d => ⟨d, transport⟩

theorem isSimple_ask (headers : List (Text × Text)) (user : String) :
    (ask user).IsSimple headers := by
  refine ⟨⟨rfl, trivial⟩, fun job h => ?_, trivial, trivial⟩
  obtain ⟨e, -, hrequest⟩ := Admission.exists_of_withUser h
  obtain ⟨hoperation, -⟩ := Admission.eq_of_request hrequest
  refine ⟨⟨.get, Path.subscriber e [], headers, none⟩, ?_⟩
  rw [Job.request?, hoperation]
  rfl

theorem isSimple_of_mem_deeds : ∀ d ∈ deeds, d.IsSimple headers := by
  have hu := isSimple_ask headers "u"
  have hv := isSimple_ask headers "v"
  simp only [deeds, List.forall_mem_cons]
  exact ⟨hu, trivial, hu, hv, List.forall_mem_nil _⟩

theorem malformed_of_ne {call : Call} {job : Job} {sent : Sent}
    (h : call.admission = .dispatch job) (hslot : job.slot ≠ customer)
    (hsent : job.request? headers = some sent) : malformed sent = wellFormed sent := by
  obtain ⟨hmethod, hpath⟩ := Job.method_and_path hsent
  apply if_neg
  rintro ⟨hget, hu⟩
  have hcustomer : (Call.getCustomerInfo (.text "u".toText)).admission =
      .dispatch ⟨.getCustomerInfo "u".toText, "GET /subscribers/u".toText⟩ := rfl
  have hjob := Job.eq_of_fetch h hcustomer (hmethod ▸ hget) rfl (hpath ▸ hu)
  exact hslot (congrArg Job.slot hjob)

theorem alikeBut_turns {ds : List Deed} (h : ∀ d ∈ ds, d.IsSimple headers) :
    List.Forall₂ (Turn.AlikeBut headers customer) (turns wellFormed ds) (turns malformed ds) := by
  rw [turns, turns, List.forall₂_map_left_iff, List.forall₂_map_right_iff, List.forall₂_same]
  exact fun d hd => ⟨rfl, h d hd, malformed_of_ne⟩

/-- While the transport is held, the play that left callers waiting is a request ahead. -/
theorem malformed_is_ahead_while_held :
    List.Forall₂ (Turn.AlikeBut [] customer) (turns wellFormed deeds) (turns malformed deeds) ∧
      let p := (start [] false "requests".toText).run (turns wellFormed deeds)
      let q := (start [] false "requests".toText).run (turns malformed deeds)
      p.backend.requestsBut customer = [] ∧
        (q.backend.requestsBut customer).map (·.path) = ["/subscribers/v".toText] :=
  ⟨alikeBut_turns isSimple_of_mem_deeds, by decide, by decide⟩

/-- Once it is released only the callers that ask for the customer tell the plays apart. -/
theorem others_are_served_beside_malformed :
    let us := turns wellFormed (deeds ++ [.release])
    let vs := turns malformed (deeds ++ [.release])
    let p := (start [] false "requests".toText).run us
    let q := (start [] false "requests".toText).run vs
    List.Forall₂ (Turn.AlikeBut [] customer) us vs ∧ SameBut customer p q ∧
      p.backend.enrolledIn customer = [0, 1] ∧
      (p.backend.requestsBut customer).map (·.path) = ["/subscribers/v".toText] ∧
      p.backend.unresolved = [] ∧ q.backend.unresolved = ["u".toText] := by
  have hsimple : ∀ d ∈ deeds ++ [.release], d.IsSimple [] := by
    intro d hd
    rcases List.mem_append.mp hd with hd | hd
    · exact isSimple_of_mem_deeds d hd
    · obtain rfl := List.mem_singleton.mp hd
      trivial
  have halike := alikeBut_turns hsimple
  exact ⟨halike, failures_stay_with_their_key [] false "requests".toText customer halike,
    by decide, by decide, by decide, by decide⟩

end Play

end SubscriptionClient
