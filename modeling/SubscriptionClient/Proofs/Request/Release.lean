import SubscriptionClient.Proofs.Concurrency.Deliveries
import SubscriptionClient.Request.Delivery

/-!
# What becomes of a batch

An exchange that is over has released its batch, with everyone in it done, exactly if the answer to
it was not malformed. A malformed answer leaves the batch where it is: whoever comes later under its
key waits with it for an outcome that never comes.
-/

namespace SubscriptionClient

/-- Whether an answer is none at all, or has another number of parts than three. -/
def Reply.IsMalformed : Reply → Prop
  | raised _ => False
  | parts fields => fields.length ≠ 3
  | nothing => True

theorem Reply.response?_cases (reply : Reply) :
    (reply.IsMalformed ∧ ∃ m, reply.response? = .error (.misuse m)) ∨
      (¬reply.IsMalformed ∧ ∃ r, reply.response? = .ok r) := by
  cases reply with
  | raised i => exact .inr ⟨not_false, _, rfl⟩
  | nothing => exact .inl ⟨trivial, _, rfl⟩
  | parts fields =>
    rcases fields with _ | ⟨status, _ | ⟨body, _ | ⟨failure, _ | ⟨other, rest⟩⟩⟩⟩
    · exact .inl ⟨by simp [IsMalformed], _, rfl⟩
    · exact .inl ⟨by simp [IsMalformed], _, rfl⟩
    · exact .inl ⟨by simp [IsMalformed], _, rfl⟩
    · exact .inr ⟨by simp [IsMalformed], _, rfl⟩
    · exact .inl ⟨by simp [IsMalformed], _, rfl⟩

/-- Whether a batch is taken out and everyone in it is done. What is registered afterwards was
registered by those who follow. -/
structure Delivery.Releases (w : Waiting) (key : Text) (batch : List Text) (d : Delivery) :
    Prop where
  removed : ∃ registry fs, w.registry.drain? key = some (batch, registry) ∧
    registry.batch? key = none ∧ d.waiting.registry = Coalescer.registerAll fs registry ∧
    d.waiting.followed.map Prod.fst = w.followed.map Prod.fst ++ fs.map FollowUp.label
  done : ∀ label ∈ batch, ∃ v, d.waiting.waiter? label = some v ∧ v.future.isDone = true

namespace Exchange

variable {headers : List (Text × Text)} {transport : Sent → Reply} {key : Text} {e : Exchange}
  {w : Waiting} {batch : List Text}

def MeetsMalformed (headers : List (Text × Text)) (transport : Sent → Reply) (e : Exchange) :
    Prop :=
  ∃ s, e.prepare headers = .ok s ∧ (transport s).IsMalformed

theorem response_cases (headers : List (Text × Text)) (transport : Sent → Reply) (e : Exchange) :
    (e.MeetsMalformed headers transport ∧ ∃ s m,
        e.response headers transport = (some s, .error (.misuse m))) ∨
      (¬e.MeetsMalformed headers transport ∧ ∃ sent r,
        e.response headers transport = (sent, .ok r)) := by
  cases hp : e.prepare headers with
  | error r =>
    refine .inr ⟨?_, none, r, by simp only [response, hp]⟩
    rintro ⟨s, hs, -⟩
    rw [hp] at hs
    cases hs
  | ok s =>
    rcases (transport s).response?_cases with ⟨hbad, m, hm⟩ | ⟨hgood, r, hr⟩
    · exact .inl ⟨⟨s, hp, hbad⟩, s, m, by simp only [response, hp, hm]⟩
    · refine .inr ⟨?_, some s, r, by simp only [response, hp, hr]⟩
      rintro ⟨t, ht, hbad⟩
      obtain rfl := Except.ok.inj (hp.symm.trans ht)
      exact hgood hbad

theorem deliver_of_response {sent : Option Sent} {r : Response}
    (h : e.response headers transport = (sent, .ok r)) (hw : w.IsSound)
    (hb : w.registry.batch? key = some batch) :
    ∃ registry d, e.deliver headers transport key w = ⟨sent, none, d⟩ ∧
      w.registry.drain? key = some (batch, registry) ∧ d.IsSound ∧
      Coalescer.Delivers (e.handle r) { w with registry } d ∧
      ∀ label ∈ batch, ∃ v, d.waiter? label = some v ∧ v.future.isDone = true := by
  obtain ⟨registry, d, hdrain, hsettle, hdelivers, hdone⟩ := hw.exists_settle_eq hb (e.handle r)
  exact ⟨registry, d, by simp only [deliver, h, hsettle], hdrain, hw.settle hsettle, hdelivers,
    hdone⟩

theorem deliver_of_malformed {s : Sent} {fault : Fault}
    (h : e.response headers transport = (some s, .error fault)) :
    e.deliver headers transport key w = ⟨some s, some fault, w⟩ := by
  simp only [deliver, h]

theorem not_releases_self {sent : Option Sent} {escaped : Option Fault}
    (hb : w.registry.batch? key = some batch) :
    ¬Delivery.Releases w key batch ⟨sent, escaped, w⟩ := by
  rintro ⟨⟨registry, fs, -, hnone, hregistry, hfollowed⟩, -⟩
  obtain rfl : fs = [] := List.map_eq_nil_iff.mp (List.self_eq_append_right.mp hfollowed)
  rw [show w.registry = registry from hregistry, hnone] at hb
  cases hb

/-- Whatever the transport does, a batch is released unless the answer is malformed; and then
nothing happens to it. Whoever was pending in a released batch has the one outcome of the
exchange. -/
theorem releases_iff_not_malformed (hw : w.IsSound) (hb : w.registry.batch? key = some batch) :
    ((e.deliver headers transport key w).Releases w key batch ↔
        ¬e.MeetsMalformed headers transport) ∧
      (e.MeetsMalformed headers transport →
        ∃ s m, e.deliver headers transport key w = ⟨some s, some (.misuse m), w⟩) ∧
      (¬e.MeetsMalformed headers transport →
        (e.deliver headers transport key w).escaped = none ∧
          (e.deliver headers transport key w).waiting.IsSound ∧
          ∃ sent r, e.response headers transport = (sent, .ok r) ∧
            ∀ label ∈ batch, w.state? label = some .pending →
              (e.deliver headers transport key w).waiting.state? label =
                some (.finished (e.handle r))) := by
  rcases response_cases headers transport e with ⟨hbad, s, m, h⟩ | ⟨hgood, sent, r, h⟩
  · rw [deliver_of_malformed h]
    exact ⟨⟨fun hreleases => (not_releases_self hb hreleases).elim, fun hno => (hno hbad).elim⟩,
      fun _ => ⟨s, m, rfl⟩, fun hno => (hno hbad).elim⟩
  · obtain ⟨registry, d, hd, hdrain, hsound, hdelivers, hdone⟩ := deliver_of_response h hw hb
    rw [hd]
    refine ⟨⟨fun _ => hgood, fun _ => ⟨?_, hdone⟩⟩, fun hbad => (hgood hbad).elim, fun _ => ?_⟩
    · obtain ⟨fs, hregistry, hfollowed⟩ := hdelivers.registered
      exact ⟨registry, fs, hdrain, Registry.batch?_of_drain?_self hdrain hw.nodup_keys, hregistry,
        hfollowed⟩
    · refine ⟨rfl, hsound, sent, r, h, ?_⟩
      intro label hlabel hpending
      obtain ⟨v, hv, hstate⟩ := Option.map_eq_some_iff.mp hpending
      obtain ⟨v', hv', htakes⟩ := hdelivers.waiter hv
      obtain ⟨u, hu, hdone⟩ := hdone label hlabel
      obtain rfl := Option.some.inj (hv'.symm.trans hu)
      rw [hstate] at htakes
      rw [Coalescer.state?, hv', Option.map_some, htakes.eq_finished hdone]

def twoWaiters : Waiting :=
  (((Coalescer.ofName "driver".toText).register "first".toText "key".toText).1.register
    "second".toText "key".toText).1

theorem isSound_twoWaiters : twoWaiters.IsSound :=
  ((Coalescer.isSound_ofName _).register _ _).register _ _

theorem batch?_twoWaiters :
    twoWaiters.registry.batch? "key".toText = some ["first".toText, "second".toText] := by decide

theorem releases_after_lost_request :
    let d := (Operation.getCustomerInfo "user".toText).exchange.deliver []
      (fun _ => .raised ⟨"TimeoutError".toText, []⟩) "key".toText twoWaiters
    twoWaiters.IsSound ∧
      twoWaiters.registry.batch? "key".toText = some ["first".toText, "second".toText] ∧
      d.Releases twoWaiters "key".toText ["first".toText, "second".toText] ∧
      d.waiting.registry.batch? "key".toText = none := by
  refine ⟨isSound_twoWaiters, batch?_twoWaiters, ?_, by decide⟩
  apply (releases_iff_not_malformed isSound_twoWaiters batch?_twoWaiters).1.mpr
  rintro ⟨s, -, hbad⟩
  exact hbad

/-- After an answer of null both waiters are still pending under the key, and whoever comes next
only joins them. -/
theorem not_released_after_missing_answer :
    let d := (Operation.getCustomerInfo "user".toText).exchange.deliver [] (fun _ => .nothing)
      "key".toText twoWaiters
    twoWaiters.registry.batch? "key".toText = some ["first".toText, "second".toText] ∧
      d.waiting.registry.batch? "key".toText = some ["first".toText, "second".toText] ∧
      d.waiting.state? "first".toText = some .pending ∧
      d.waiting.state? "second".toText = some .pending ∧
      (d.waiting.register "third".toText "key".toText).2 = .joined ∧
      ¬d.Releases twoWaiters "key".toText ["first".toText, "second".toText] :=
  ⟨batch?_twoWaiters, batch?_twoWaiters, rfl, rfl, by decide, not_releases_self batch?_twoWaiters⟩

end Exchange

end SubscriptionClient
