import SubscriptionClient.Proofs.Backend.Runs
import SubscriptionClient.Proofs.Backend.Soundness

/-!
# One request for each key

At any moment a family has a batch under a key exactly while one accepted request of that family and
key has not yet been answered, and there are never two such requests.
-/

namespace SubscriptionClient.Backend

variable {E : Surroundings} {headers : List (Text × Text)} {clearable : Bool} {name : Text}
  {b : Backend}

/-- How many jobs of a family and key are accepted and not yet drained: they are queued, or the
worker has not yet taken out their batch. -/
def outstandingCount (s : Slot) (b : Backend) : Nat := (b.outstanding.map Job.slot).count s

def inFlight (b : Backend) : List Job :=
  match b.queue.worker, b.stage with
  | .busy job, .awaiting _ => [job]
  | _, _ => []

structure SharesRequests (b : Backend) : Prop where
  contains_iff (f : Family) (key : Text) :
    (b.registries f).contains key = true ↔ b.outstandingCount (f, key) = 1
  count_le_one (s : Slot) : b.outstandingCount s ≤ 1
  nodup_calls : ((b.inFlight ++ b.queue.waitingJobs).map Job.slot).Nodup
  nodup_keys (f : Family) : (b.registries f).keys.Nodup
  /-- Whoever waits in an entry waits under its key. -/
  entry {f : Family} {key : Text} {batch : List Nat} : (key, batch) ∈ (b.registries f).entries →
    batch ≠ [] ∧ ∀ n ∈ batch, ∃ t, b.tickets[n]? = some t ∧ t.key = some key
  /-- No batch is ever missing, neither for a call nor for the worker. -/
  raised (label : Text) (c : Call) (registry key : Text) :
    .raised label c (.nothingWaiting registry key) ∉ b.events
  escaped : b.escaped = []

theorem inFlight_sublist (b : Backend) : b.inFlight.Sublist b.unanswered := by
  unfold inFlight unanswered
  split
  · rename_i job s hw hs
    simp [hw, hs]
  · exact List.nil_sublist _

theorem mem_enrolled_iff {n : Nat} {key : Text} :
    (n, key) ∈ b.enrolled ↔ ∃ t, b.tickets[n]? = some t ∧ t.key = some key := by
  simp only [enrolled, List.mem_filterMap, Option.map_eq_some_iff, Prod.mk.injEq, Prod.exists,
    List.mem_zipIdx_iff_getElem?, List.getElem?_map]
  constructor
  · rintro ⟨_, _, ⟨t, ht, hk⟩, _, rfl, rfl, rfl⟩
    exact ⟨t, ht, hk⟩
  · rintro ⟨t, ht, hk⟩
    exact ⟨_, n, ⟨t, ht, hk⟩, key, rfl, rfl, rfl⟩

/-- Who waits in a batch is a future of its key. -/
theorem IsSound.key_eq (h : b.IsSound E headers name) {s : Slot} {batch : List Nat}
    (hb : (b.registries s.1).batch? s.2 = some batch) {n : Nat} (hn : n ∈ batch) :
    ∃ t, b.tickets[n]? = some t ∧ t.key = some s.2 := by
  rw [h.told.batch?_eq s] at hb
  obtain ⟨⟨job, ns⟩, ho, rfl⟩ := Option.map_eq_some_iff.mp hb
  obtain ⟨other, registration, hmem, rfl⟩ := exists_registered_of_openBatch ho hn
  rw [← mem_enrolled_iff, h.enrolled]
  exact List.mem_filterMap.mpr ⟨_, hmem, rfl⟩

theorem IsSound.sharesRequests (h : b.IsSound E headers name) : b.SharesRequests where
  contains_iff := by
    intro f key
    rw [Registry.contains_iff, h.matched.batch_iff (f, key), outstandingCount]
    constructor
    · intro hmem
      exact List.count_eq_one_of_mem h.matched.nodup_slots hmem
    · intro hcount
      exact List.count_pos_iff.mp (hcount ▸ Nat.one_pos)
  count_le_one := List.nodup_iff_count_le_one.mp h.matched.nodup_slots
  nodup_calls :=
    h.matched.nodup_slots.sublist ((b.inFlight_sublist.append_right _).map Job.slot)
  nodup_keys := h.matched.nodup_keys
  entry := by
    intro f key batch he
    have hb := (Registry.mem_entries_iff (h.matched.nodup_keys f)).mp he
    refine ⟨?_, fun n hn => h.key_eq (s := (f, key)) hb hn⟩
    rintro rfl
    exact h.matched.ne_nil (f, key) hb
  raised := by
    intro label c registry key hmem
    obtain ⟨m, hm⟩ := h.untroubled.raised hmem
    exact absurd hm nofun
  escaped := h.untroubled.escaped

/-- Every run passes only through such states, whatever callers and the worker do and in whatever
order, as long as every reply of the transport has a response in it. -/
theorem one_request_per_key (hE : E.IsComplete) (headers : List (Text × Text)) (clearable : Bool)
    (name : Text) :
    (∀ actions, E.Allows actions →
      Reaches E (start headers clearable name) ((start headers clearable name).run actions)) ∧
    ∀ b, Reaches E (start headers clearable name) b → b.SharesRequests :=
  ⟨fun _ ha => reaches_run ha _, fun _ hb => (isSound_of_reaches hE hb).sharesRequests⟩

/-- Surroundings in which all may be cancelled and every reply has a response in it. -/
def anySurroundings : Surroundings where
  replies := fun _ reply => ∃ r, reply.response? = .ok r
  cancels := fun _ => True

/-- Two callers ask for the same customer, and the worker takes up their request. -/
def twoCallers : List Action :=
  [.run (.call "first".toText (.getCustomerInfo (.text "u".toText)) .nil
      (.call "second".toText (.getCustomerInfo (.text "u".toText)) .nil .nil)),
    .work fun _ => .raised ⟨"TimeoutError".toText, []⟩]

theorem one_request_for_two_callers :
    anySurroundings.IsComplete ∧
      ((start [] false "requests".toText).run twoCallers).SharesRequests ∧
      ((start [] false "requests".toText).run twoCallers).outstandingCount
        (.customerInfo, "GET /subscribers/u".toText) = 1 := by
  have hE : anySurroundings.IsComplete := fun _ _ h => h
  have hall := one_request_per_key hE [] false "requests".toText
  refine ⟨hE, hall.2 _ (hall.1 twoCallers ⟨?_, ?_⟩), by decide⟩
  · intro t ht s
    simp only [twoCallers, List.mem_cons, reduceCtorEq, Action.work.injEq, List.not_mem_nil,
      or_false, false_or] at ht
    subst ht
    exact ⟨_, rfl⟩
  · exact fun _ => trivial

end SubscriptionClient.Backend
