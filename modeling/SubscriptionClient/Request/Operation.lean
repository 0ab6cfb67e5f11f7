import SubscriptionClient.Request.Endpoint
import SubscriptionClient.Request.Key
import SubscriptionClient.Response.CustomerInfo
import SubscriptionClient.Response.Eligibility
import SubscriptionClient.Response.LogIn
import SubscriptionClient.Response.OfferSigning
import SubscriptionClient.Response.Offerings
import SubscriptionClient.Response.Post

/-!
# Operations

An operation is one request to the backend together with the way its answer is classified. Fetching
and posting customer info share a family of waiters, every other kind of operation has its own.
-/

namespace SubscriptionClient

/-- What a call can be answered with. -/
inductive Outcome where
  | customerInfo (c : CustomerInfo)
  | logIn (r : LogInResult)
  | offerings (o : Offerings)
  | signedOffer (o : SignedOffer)
  | eligibilities (es : List (Value × Eligibility))
  | done

/-- The kinds of requests whose waiters are kept apart. -/
inductive Family where
  | customerInfo
  | logIn
  | userAlias
  | offerings
  | offerSigning
  | introEligibility
  | attributes
  | attribution
  deriving DecidableEq

namespace Family

def all : List Family :=
  [customerInfo, logIn, userAlias, offerings, offerSigning, introEligibility, attributes,
    attribution]

theorem mem_all (f : Family) : f ∈ all := by
  cases f <;> decide

theorem nodup_all : all.Nodup := by decide

def word : Family → String
  | customerInfo => "customer_info"
  | logIn => "log_in"
  | userAlias => "alias"
  | offerings => "offerings"
  | offerSigning => "offer_signing"
  | introEligibility => "intro_eligibility"
  | attributes => "attributes"
  | attribution => "attribution"

def displayName : Family → Text
  | customerInfo => "customer info".toText
  | logIn => "log in".toText
  | userAlias => "alias".toText
  | offerings => "offerings".toText
  | offerSigning => "offer signing".toText
  | introEligibility => "intro eligibility".toText
  | attributes => "subscriber attributes".toText
  | attribution => "attribution".toText

end Family

inductive AttributionNetwork where
  | appleSearchAds
  | adjust
  | appsFlyer
  | branch
  | tenjin
  | facebook
  | mParticle
  deriving DecidableEq

namespace AttributionNetwork

def all : List AttributionNetwork :=
  [appleSearchAds, adjust, appsFlyer, branch, tenjin, facebook, mParticle]

def code : AttributionNetwork → Int
  | appleSearchAds => 0
  | adjust => 1
  | appsFlyer => 2
  | branch => 3
  | tenjin => 4
  | facebook => 5
  | mParticle => 6

def name : AttributionNetwork → String
  | appleSearchAds => "APPLE_SEARCH_ADS"
  | adjust => "ADJUST"
  | appsFlyer => "APPS_FLYER"
  | branch => "BRANCH"
  | tenjin => "TENJIN"
  | facebook => "FACEBOOK"
  | mParticle => "M_PARTICLE"

def ofValue? (v : Value) : Option AttributionNetwork :=
  all.find? fun n => (Value.int n.code).sameKey v

end AttributionNetwork

inductive Operation where
  | getCustomerInfo (escaped : Text)
  | postReceipt (receipt : Receipt)
  | logIn (current new : Value)
  | createAlias (escaped : Text) (new : Value)
  | getOfferings (escaped : Text)
  | signOffer (offer : OfferRequest)
  | getIntroEligibility (escaped : Text) (fetchToken : Value) (products : List Value)
  | postAttributes (escaped : Text) (attributes : Attributes)
  | postAttribution (escaped : Text) (network : AttributionNetwork) (data : List (Value × Value))

namespace Operation

def method : Operation → Method
  | getCustomerInfo _ | getOfferings _ => .get
  | _ => .post

def path : Operation → Text
  | getCustomerInfo escaped => Path.subscriber escaped []
  | postReceipt _ => Path.receipts
  | logIn _ _ => Path.identify
  | createAlias escaped _ => Path.subscriber escaped "alias".toText
  | getOfferings escaped => Path.subscriber escaped "offerings".toText
  | signOffer _ => Path.offers
  | getIntroEligibility escaped _ _ => Path.subscriber escaped "intro_eligibility".toText
  | postAttributes escaped _ => Path.subscriber escaped "attributes".toText
  | postAttribution escaped _ _ => Path.subscriber escaped "attribution".toText

def receiptBody (r : Receipt) : Except Misuse Value := do
  let product ← match r.product with
    | none => pure []
    | some p => match p.fields? with
      | some fields => pure fields
      | none => .error .signalingNaN
  return .record
    ([("fetch_token", r.fetchToken), ("app_user_id", r.appUserId), ("is_restore", r.isRestore),
        ("observer_mode", r.observerMode)] ++ product ++
      (match r.attributes with
        | some attributes => [("attributes", attributes.toValue)]
        | none => []) ++
      (if r.presentedOfferingIdentifier.isNull then []
        else [("presented_offering_identifier", r.presentedOfferingIdentifier)]))

def offerBody (o : OfferRequest) : Value :=
  .record
    [("app_user_id", o.appUserId),
      ("fetch_token", o.fetchToken),
      ("generate_offers",
        .list
          [.record
            [("offer_id", o.offerIdentifier),
              ("product_id", o.productIdentifier),
              ("subscription_group", o.subscriptionGroup)]])]

/-- The body that is sent; it is empty for a request that sends none. -/
def body : Operation → Except Misuse Value
  | getCustomerInfo _ | getOfferings _ => .ok (.map [])
  | postReceipt receipt => receiptBody receipt
  | logIn current new => .ok (.record [("app_user_id", current), ("new_app_user_id", new)])
  | createAlias _ new => .ok (.record [("new_app_user_id", new)])
  | signOffer offer => .ok (offerBody offer)
  | getIntroEligibility _ fetchToken products =>
    .ok (.record [("product_identifiers", .list products), ("fetch_token", fetchToken)])
  | postAttributes _ attributes => .ok (.record [("attributes", attributes.toValue)])
  | postAttribution _ network data =>
    .ok (.record [("network", .int network.code), ("data", .map data)])

/-- How the answer to an operation is classified. -/
def handle : Operation → Response → Attempt Outcome
  | getCustomerInfo _, r | postReceipt _, r => (Response.customerInfo r).map .customerInfo
  | logIn _ _, r => (Response.logIn r).map .logIn
  | createAlias _ _, r | postAttribution _ _ _, r => (Response.post r).map fun _ => .done
  | getOfferings _, r => (Response.offerings r).map .offerings
  | signOffer _, r => (Response.offerSigning r).map .signedOffer
  | getIntroEligibility _ _ products, r =>
    (Response.introEligibility products r).map .eligibilities
  | postAttributes _ _, r => (Response.subscriberAttributes r).map fun _ => .done

def family : Operation → Family
  | getCustomerInfo _ | postReceipt _ => .customerInfo
  | logIn _ _ => .logIn
  | createAlias _ _ => .userAlias
  | getOfferings _ => .offerings
  | signOffer _ => .offerSigning
  | getIntroEligibility _ _ _ => .introEligibility
  | postAttributes _ _ => .attributes
  | postAttribution _ _ _ => .attribution

def key? : Operation → Attempt Text
  | getCustomerInfo escaped => RequestKey.customerInfo escaped
  | postReceipt receipt => RequestKey.receipt receipt
  | logIn current new => RequestKey.logIn current new
  | createAlias escaped new => RequestKey.createAlias escaped new
  | getOfferings escaped => RequestKey.offerings escaped
  | signOffer offer => RequestKey.offerSigning offer
  | getIntroEligibility escaped fetchToken products =>
    RequestKey.introEligibility escaped fetchToken products
  | postAttributes escaped attributes => RequestKey.subscriberAttributes escaped attributes
  | postAttribution escaped network data => RequestKey.attribution escaped network.code data

def endpoint : Operation → Endpoint
  | getCustomerInfo _ => .customerInfo
  | postReceipt _ => .receipt
  | logIn _ _ => .logIn
  | createAlias _ _ => .userAlias
  | getOfferings _ => .offerings
  | signOffer _ => .offerSigning
  | getIntroEligibility _ _ _ => .introEligibility
  | postAttributes _ _ => .attributes
  | postAttribution _ _ _ => .attribution

def kindName (o : Operation) : String := o.endpoint.operationName

end Operation

end SubscriptionClient
