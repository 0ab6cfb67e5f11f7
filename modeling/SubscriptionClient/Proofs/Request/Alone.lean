import SubscriptionClient.Proofs.Request.SameRequest
import SubscriptionClient.Request.Delivery

/-!
# Requests of one's own

What a call comes to when it has a request of its own: that request is sent, and the answer to it is
classified for the call's own arguments. With a transport whose answers only depend on what is sent,
plain calls under one key come to the same.
-/

namespace SubscriptionClient

/-- A transport that always answers with a response in it, and in the same way to requests that are
the same up to the order of members. -/
structure IsSteady (transport : Sent → Reply) : Prop where
  complete (s : Sent) : ∃ r, (transport s).response? = .ok r
  same {s t : Sent} : s.Same t → transport s = transport t

def Operation.alone (headers : List (Text × Text)) (transport : Sent → Reply) (o : Operation) :
    Attempt Outcome :=
  (o.exchange.response headers transport).2.bind o.handle

/-- The outcome of a call that has a request of its own, if it needs one. -/
def Call.alone (headers : List (Text × Text)) (transport : Sent → Reply) (c : Call) :
    Option (Attempt Outcome) :=
  match c.admission with
  | .raised _ => none
  | .settled outcome => some outcome
  | .dispatch job => some (job.operation.alone headers transport)

variable {headers : List (Text × Text)} {transport : Sent → Reply} {c d : Call} {j k : Job}
  {o : Operation}

theorem Operation.alone_of_unsent {r : Response} (h : o.exchange.prepare headers = .error r) :
    o.alone headers transport = o.handle r := by
  rw [alone, Exchange.response, h]
  rfl

theorem Operation.alone_of_sent {s : Sent} {r : Response} (h : o.exchange.prepare headers = .ok s)
    (hr : (transport s).response? = .ok r) : o.alone headers transport = o.handle r := by
  rw [alone, Exchange.response, h]
  show (transport s).response?.bind o.handle = _
  rw [hr]
  rfl

/-- Plain calls under one key come to the same, unless their identities collide. -/
theorem alone_eq_of_key_eq (ht : IsSteady transport) (hc : c.IsPlain) (hd : d.IsPlain)
    (hj : c.admission = .dispatch j) (hk : d.admission = .dispatch k) (h : j.key = k.key)
    (hno : ¬j.operation.Collides k.operation) :
    j.operation.alone headers transport = k.operation.alone headers transport := by
  obtain ⟨he, hids, -, hsends⟩ := Call.same_of_key_eq hc hd hj hk h hno
  obtain ⟨s, t, hs, ht', hsame⟩ := hsends headers
  obtain ⟨r, hr⟩ := ht.complete s
  have hr' : (transport t).response? = .ok r := ht.same hsame ▸ hr
  rw [Operation.alone_of_sent hs hr, Operation.alone_of_sent ht' hr',
    (Call.asks_of_admission hj).1.handle_eq (Call.asks_of_admission hk).1 he hids]

end SubscriptionClient
