import SubscriptionClient.Proofs.Backend.InFlight
import SubscriptionClient.Proofs.Request.Gates

/-!
# Calls at the gate

A call that fails a precondition or raises a fault leaves alone whatever calls share: the
registries, the queue, its worker and the transport. Every other call registers exactly one future,
under the key of its own request, and submits a job exactly if nobody had that key in flight.
-/

namespace SubscriptionClient.Backend

variable {b c : Backend} {label : Text} {call : Call} {job : Job} {outcome : Attempt Outcome}
  {fault : Fault}

/-- Nothing changes that calls share. -/
structure Leaves (b c : Backend) : Prop where
  registries : c.registries = b.registries
  queue : c.queue = b.queue
  stage : c.stage = b.stage
  requests : c.requests = b.requests

/-- A new future waits for a job, and nothing else waits that did not wait before. -/
structure Registers (label : Text) (job : Job) (b c : Backend) : Prop where
  tickets : c.tickets = b.tickets ++ [⟨label, some job.key, .pending⟩]
  batch?_slot : c.batch? job.slot = some ((b.batch? job.slot).getD [] ++ [b.tickets.length])
  batch?_of_ne {s : Slot} : s ≠ job.slot → c.batch? s = b.batch? s
  submitted : b.batch? job.slot = none → b.queue.submit job = .ok c.queue
  joined : b.batch? job.slot ≠ none → c.queue = b.queue
  stage : c.stage = b.stage
  requests : c.requests = b.requests

/-- What a call does to the backend, by what it fails or raises. -/
structure IsGated (label : Text) (call : Call) (b : Backend) : Prop where
  /-- Apart from a new future that is done there is nothing new. -/
  rejected {outcome : Attempt Outcome} : call.IsRejected outcome → call.HasProductKeys →
    b.issue label call =
      ((b.handOut label none (.finished outcome)).1, .ok b.tickets.length)
  unusable {outcome : Attempt Outcome} : call.IsRejected outcome → ¬call.HasProductKeys →
    ∃ p, p.isKey = false ∧ call.Raises (.misuse (.unusableKey p))
  raised_iff {fault : Fault} : (b.issue label call).2 = .error fault ↔ call.Raises fault
  leaves : (∃ outcome, call.IsRejected outcome) ∨ (∃ fault, call.Raises fault) →
    Leaves b (b.issue label call).1
  registers : (∀ outcome, ¬call.IsRejected outcome) → (∀ fault, ¬call.Raises fault) →
    b.queue.closed = false → ∃ job c, call.Asks job.operation ∧
      job.operation.key? = .ok job.key ∧ b.issue label call = (c, .ok b.tickets.length) ∧
      Registers label job b c

theorem requests_note_raised (label : Text) (call : Call) (fault : Fault) (b : Backend) :
    (b.note (.raised label call fault)).requests = b.requests := by
  simp [note, requests, List.filterMap_append]

theorem leaves_note_raised (label : Text) (call : Call) (fault : Fault) (b : Backend) :
    Leaves b (b.note (.raised label call fault)) :=
  ⟨rfl, rfl, rfl, requests_note_raised label call fault b⟩

theorem batch?_enrol_slot (label : Text) (job : Job) (b : Backend) :
    (b.enrol label job).1.batch? job.slot =
      some ((b.batch? job.slot).getD [] ++ [b.tickets.length]) := by
  simp [batch?, Job.slot, enrol, handOut, setRegistry, record, Registry.batch?_register_self]

theorem batch?_enrol_of_ne {s : Slot} (h : s ≠ job.slot) (label : Text) (b : Backend) :
    (b.enrol label job).1.batch? s = b.batch? s := by
  obtain ⟨f, key⟩ := s
  by_cases hf : f = job.operation.family
  · have hkey : job.key ≠ key := fun hkey => h (by rw [Job.slot, hf, hkey])
    simp [batch?, enrol, handOut, setRegistry, record, hf, Registry.batch?_register_of_ne hkey]
  · simp [batch?, enrol, handOut, setRegistry, record, hf]

theorem registers_dispatch (hq : b.queue.closed = false) (label : Text) (job : Job) :
    ∃ c, b.dispatch label job = (c, .ok b.tickets.length) ∧ Registers label job b c := by
  cases hb : b.batch? job.slot with
  | some batch =>
    refine ⟨_, dispatch_of_joined label hb, rfl, batch?_enrol_slot label job b,
      fun hs => batch?_enrol_of_ne hs label b, fun hnone => ?_, fun _ => rfl, rfl, rfl⟩
    rw [hb] at hnone
    cases hnone
  | none =>
    have hsubmit := WorkQueue.submit_of_open hq job
    exact ⟨_, dispatch_of_accepted label hb hsubmit, rfl, batch?_enrol_slot label job b,
      fun hs => batch?_enrol_of_ne hs label b, fun _ => hsubmit, fun hne => (hne hb).elim, rfl, rfl⟩

/-- Whatever a call is made with, and whatever the backend has come to, the call passes its gate in
the one way that its arguments allow. -/
theorem calls_are_gated (label : Text) (call : Call) (b : Backend) : IsGated label call b where
  rejected := fun h hk => issue_of_settled (Call.admission_of_isRejected h hk) label b
  unusable := Call.exists_raises_of_isRejected
  raised_iff := by
    intro fault
    constructor
    · intro h
      rcases issue_cases .unrestricted label call b with ⟨fault', hraised, hissue⟩ |
        ⟨c, t, hissue, -⟩
      · rw [hissue] at h
        obtain rfl := Except.error.inj h
        have htold := call.isToldBy_admission
        rw [hraised] at htold
        exact htold
      · rw [hissue] at h
        cases h
    · intro h
      rw [issue_of_raised (Call.admission_of_raises h)]
  leaves := by
    have hraised {fault : Fault} (h : call.Raises fault) : Leaves b (b.issue label call).1 := by
      rw [issue_of_raised (Call.admission_of_raises h)]
      exact leaves_note_raised label call fault b
    rintro (⟨outcome, h⟩ | ⟨fault, h⟩)
    · by_cases hk : call.HasProductKeys
      · rw [issue_of_settled (Call.admission_of_isRejected h hk)]
        exact ⟨rfl, rfl, rfl, rfl⟩
      · obtain ⟨p, -, hp⟩ := Call.exists_raises_of_isRejected h hk
        exact hraised hp
    · exact hraised h
  registers := by
    intro hn hr hq
    have htold := call.isToldBy_admission
    cases hadmission : call.admission with
    | raised fault =>
      rw [hadmission] at htold
      exact (hr fault htold).elim
    | settled outcome =>
      rw [hadmission] at htold
      exact (hn outcome htold).elim
    | dispatch job =>
      obtain ⟨c, hdispatch, hregisters⟩ := registers_dispatch hq label job
      obtain ⟨hasks, hkey⟩ := Call.asks_of_admission hadmission
      exact ⟨job, c, hasks, hkey, issue_of_dispatch label hadmission hdispatch, hregisters⟩

/-- Without a user the first call is settled at once; the second registers a future and submits. -/
theorem gates_of_missing_and_known_user :
    let b := start [] true "driver".toText
    b.issue "first".toText (.getCustomerInfo (.text [])) =
        ((b.handOut "first".toText none
          (.finished (.error (.client .missingAppUserId)))).1, .ok 0) ∧
      ∃ job c, b.issue "second".toText (.getCustomerInfo (.text "user".toText)) = (c, .ok 0) ∧
        Registers "second".toText job b c := by
  intro b
  have hempty : ¬(Value.text []).IsUserId := fun ⟨t, ht, hne, _⟩ => hne (Value.text.inj ht).symm
  have hadmission : (Call.getCustomerInfo (.text "user".toText)).admission =
      .dispatch ⟨.getCustomerInfo "user".toText, "GET /subscribers/user".toText⟩ := by rfl
  obtain ⟨hn, hr⟩ := Call.passes_of_dispatch hadmission
  obtain ⟨job, c, -, -, hissue, hregisters⟩ :=
    (calls_are_gated "second".toText (.getCustomerInfo (.text "user".toText)) b).registers hn hr rfl
  exact ⟨(calls_are_gated _ _ b).rejected (.user rfl hempty) nofun, job, c, hissue, hregisters⟩

/-- A call without a user, for the eligibility of a product that is a list. -/
def listForProduct : Call := .getIntroEligibility (.text []) [0] (.list [.list [.int 1]])

/-- The call fails a precondition and still hands out no future: the product cannot be a key among
the eligibilities that would travel with the failure. -/
theorem rejected_call_may_raise :
    let b := start [] true "driver".toText
    listForProduct.IsRejected
        (.error (.client (Admission.missingUserOf [(.list [.int 1], .unknown)]))) ∧
      (b.issue "call".toText listForProduct).2 =
        .error (.misuse (.unusableKey (.list [.int 1]))) ∧
      ∀ n, (b.issue "call".toText listForProduct).2 ≠ .ok n := by
  intro b
  have hraised : listForProduct.admission = .raised (.misuse (.unusableKey (.list [.int 1]))) := rfl
  have hissue : (b.issue "call".toText listForProduct).2 =
      .error (.misuse (.unusableKey (.list [.int 1]))) := by
    rw [issue_of_raised hraised]
  have hlist : listForProduct.productList? = some [.list [.int 1]] := rfl
  refine ⟨?_, hissue, fun n h => ?_⟩
  · refine .noUser hlist nofun nofun fun ⟨t, ht, hne, _⟩ => ?_
    cases ht
    exact hne rfl
  · rw [hissue] at h
    cases h

end SubscriptionClient.Backend
