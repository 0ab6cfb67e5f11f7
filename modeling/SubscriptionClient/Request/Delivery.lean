import SubscriptionClient.Concurrency.Coalescer
import SubscriptionClient.Request.Exchange

/-!
# Delivery of one exchange

An exchange is performed once, and its one outcome goes to everyone who waits under its key. Faults
of the classification are outcomes like any other. A malformed answer escapes instead, and leaves
the batch where it is.
-/

namespace SubscriptionClient

/-- Waiters for the outcomes of exchanges. -/
abbrev Waiting := Coalescer (Attempt Outcome)

structure Delivery where
  /-- What reached the transport. -/
  sent : Option Sent
  escaped : Option Fault
  waiting : Waiting

namespace Exchange

/-- The response to an exchange, unless the answer is malformed; what was sent comes first. -/
def response (headers : List (Text × Text)) (transport : Sent → Reply) (e : Exchange) :
    Option Sent × Attempt Response :=
  match e.prepare headers with
  | .ok sent => (some sent, (transport sent).response?)
  | .error response => (none, .ok response)

def deliver (headers : List (Text × Text)) (transport : Sent → Reply) (key : Text)
    (e : Exchange) (w : Waiting) : Delivery :=
  let (sent, response) := e.response headers transport
  match response with
  | .error fault => ⟨sent, some fault, w⟩
  | .ok r => match w.settle key (e.handle r) with
    | .ok (_, settled) => ⟨sent, none, settled⟩
    | .error fault => ⟨sent, some fault, w⟩

end Exchange

end SubscriptionClient
