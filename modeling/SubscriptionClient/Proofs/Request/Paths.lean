import SubscriptionClient.Proofs.Text.Codes
import SubscriptionClient.Request.Operation

/-!
# Methods and paths

The method and the path of a request tell its endpoint and the user that the path names: an escaped
identifier has no slash, so a path falls into its segments.
-/

namespace SubscriptionClient

namespace Endpoint

variable {a b : Endpoint} {e f : Text}

def method : Endpoint → Method
  | customerInfo | offerings => .get
  | _ => .post

/-- The segments of a path, of which one may be the user. -/
def segments (user : Text) : Endpoint → List Text
  | customerInfo => ["subscribers".toText, user]
  | receipt => ["receipts".toText]
  | logIn => ["subscribers".toText, "identify".toText]
  | userAlias => ["subscribers".toText, user, "alias".toText]
  | offerings => ["subscribers".toText, user, "offerings".toText]
  | offerSigning => ["offers".toText]
  | introEligibility => ["subscribers".toText, user, "intro_eligibility".toText]
  | attributes => ["subscribers".toText, user, "attributes".toText]
  | attribution => ["subscribers".toText, user, "attribution".toText]

def slash : CodePoint := CodePoint.ofChar '/'

def pathOf (user : Text) (a : Endpoint) : Text :=
  slash :: List.intercalate [slash] (segments user a)

theorem slash_notMem_segments (he : slash ∉ e) (a : Endpoint) : ∀ s ∈ segments e a, slash ∉ s := by
  cases a <;> simp only [segments, List.forall_mem_cons, List.not_mem_nil, false_implies,
    implies_true, and_true, he, not_false_eq_true, true_and] <;> decide

theorem segments_ne_nil (e : Text) (a : Endpoint) : segments e a ≠ [] := by
  cases a <;> simp [segments]

theorem segments_eq_of_pathOf_eq (he : slash ∉ e) (hf : slash ∉ f)
    (h : pathOf e a = pathOf f b) : segments e a = segments f b := by
  have hsegments := congrArg (List.splitOn slash) (List.cons.inj h).2
  rwa [List.splitOn_intercalate slash (slash_notMem_segments he a) (segments_ne_nil e a),
    List.splitOn_intercalate slash (slash_notMem_segments hf b) (segments_ne_nil f b)] at hsegments

theorem eq_of_segments_eq (hm : a.method = b.method) (h : segments e a = segments f b) :
    a = b := by
  cases a <;> cases b <;> simp [segments, method] at h hm ⊢
  all_goals first
    | exact absurd h.2 (by decide)
    | exact absurd h (by decide)

end Endpoint

namespace Operation

/-- The user that the path names. -/
def user : Operation → Text
  | getCustomerInfo escaped | getOfferings escaped | createAlias escaped _
  | getIntroEligibility escaped _ _ | postAttributes escaped _ | postAttribution escaped _ _ =>
    escaped
  | _ => []

theorem method_eq (o : Operation) : o.method = o.endpoint.method := by
  cases o <;> rfl

theorem subscriber_nil (e : Text) : Path.subscriber e [] =
    Endpoint.slash :: List.intercalate [Endpoint.slash] ["subscribers".toText, e] := by
  have he : List.intercalate [Endpoint.slash] ["subscribers".toText, e] =
      "subscribers".toText ++ Endpoint.slash :: e := by simp [List.intercalate]
  rw [he]
  rfl

theorem subscriber_of_ne_nil (e suffix : Text) (h : suffix ≠ []) :
    Path.subscriber e suffix =
      Endpoint.slash :: List.intercalate [Endpoint.slash] ["subscribers".toText, e, suffix] := by
  have he : List.intercalate [Endpoint.slash] ["subscribers".toText, e, suffix] =
      "subscribers".toText ++ Endpoint.slash :: (e ++ Endpoint.slash :: suffix) := by
    simp [List.intercalate]
  rw [he, Path.subscriber, if_neg h, List.append_assoc, List.append_assoc, List.append_assoc]
  rfl

theorem path_eq (o : Operation) : o.path = o.endpoint.pathOf o.user := by
  cases o with
  | getCustomerInfo e => exact subscriber_nil e
  | postReceipt | logIn | signOffer => rfl
  | createAlias e => exact subscriber_of_ne_nil e "alias".toText (by decide)
  | getOfferings e => exact subscriber_of_ne_nil e "offerings".toText (by decide)
  | getIntroEligibility e => exact subscriber_of_ne_nil e "intro_eligibility".toText (by decide)
  | postAttributes e => exact subscriber_of_ne_nil e "attributes".toText (by decide)
  | postAttribution e => exact subscriber_of_ne_nil e "attribution".toText (by decide)

/-- Fetches are told apart by their paths. -/
theorem eq_of_fetch {o p : Operation} (ho : Endpoint.slash ∉ o.user)
    (hp : Endpoint.slash ∉ p.user) (hm : o.method = .get) (hm' : p.method = .get)
    (hpath : o.path = p.path) : o = p := by
  rw [path_eq, path_eq] at hpath
  have hsegments := Endpoint.segments_eq_of_pathOf_eq ho hp hpath
  have hendpoint : o.endpoint = p.endpoint := by
    apply Endpoint.eq_of_segments_eq _ hsegments
    rw [← method_eq, ← method_eq, hm, hm']
  cases o with
  | getCustomerInfo e =>
    cases p with
    | getCustomerInfo f => simpa [endpoint, Endpoint.segments, user] using hsegments
    | getOfferings f => cases hendpoint
    | _ => cases hm'
  | getOfferings e =>
    cases p with
    | getCustomerInfo f => cases hendpoint
    | getOfferings f => simpa [endpoint, Endpoint.segments, user] using hsegments
    | _ => cases hm'
  | _ => cases hm

end Operation

end SubscriptionClient
