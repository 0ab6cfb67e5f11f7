import SubscriptionClient.Digest.Sha256
import SubscriptionClient.Request.Attribute
import SubscriptionClient.Request.Path
import SubscriptionClient.Request.Product
import SubscriptionClient.Response.Basic
import SubscriptionClient.Text.Base64

/-!
# Request keys

Two requests with one key are the same request. A key names the method and the path; what the path
does not tell apart enters as the digest of its canonical JSON.
-/

namespace SubscriptionClient

inductive Method where
  | get
  | post
  deriving DecidableEq

def Method.word : Method → String
  | get => "GET"
  | post => "POST"

namespace RequestKey

/-- The bytes of a text of ASCII characters. -/
def asciiBytes (t : Text) : List UInt8 := t.map fun c => UInt8.ofNat c.val

def digest? (identity : Value) : Attempt Text :=
  (Attempt.ofValues (Json.write? Json.compact identity)).map fun t =>
    Sha256.hexDigest (asciiBytes t)

/-- The key of a method and a path, both as texts, and of an identity that is not null. -/
def make (method path : Text) (identity : Value) : Attempt Text :=
  let base := method ++ " ".toText ++ path
  if identity.isNull then .ok base
  else (digest? identity).map fun d => base ++ "#".toText ++ d

def get (path : Text) : Attempt Text := make Method.get.word.toText path .null

def post (path : Text) (identity : Value) : Attempt Text :=
  make Method.post.word.toText path identity

def customerInfo (escaped : Text) : Attempt Text := get (Path.subscriber escaped [])

def offerings (escaped : Text) : Attempt Text := get (Path.subscriber escaped "offerings".toText)

def logIn (current new : Value) : Attempt Text := post Path.identify (.list [current, new])

def createAlias (escaped : Text) (new : Value) : Attempt Text :=
  post (Path.subscriber escaped "alias".toText) (.list [new])

def introEligibility (escaped : Text) (fetchToken : Value) (products : List Value) :
    Attempt Text :=
  post (Path.subscriber escaped "intro_eligibility".toText)
    (.record [("fetch_token", fetchToken), ("product_identifiers", .list products)])

def subscriberAttributes (escaped : Text) (attributes : Attributes) : Attempt Text :=
  post (Path.subscriber escaped "attributes".toText) attributes.toValue

def attribution (escaped : Text) (network : Int) (data : List (Value × Value)) : Attempt Text :=
  post (Path.subscriber escaped "attribution".toText)
    (.record [("network", .int network), ("data", .map data)])

end RequestKey

structure Receipt where
  fetchToken : Value
  appUserId : Value
  isRestore : Value
  observerMode : Value
  product : Option Product
  presentedOfferingIdentifier : Value
  attributes : Option Attributes

structure OfferRequest where
  appUserId : Value
  fetchToken : Value
  offerIdentifier : Value
  productIdentifier : Value
  subscriptionGroup : Value

namespace RequestKey

/-- The text that identifies the product of a receipt, or null without a product. -/
def productIdentity? (p : Option Product) : Except Misuse Value :=
  match p with
  | some p => p.cacheKey?.map .text
  | none => .ok .null

/-- Everything that enters the body of a receipt is part of its identity. -/
def receiptIdentity (r : Receipt) (product : Value) : Value :=
  .record
    [("app_user_id", r.appUserId),
      ("is_restore", r.isRestore),
      ("fetch_token", r.fetchToken),
      ("product_info", product),
      ("presented_offering_identifier", r.presentedOfferingIdentifier),
      ("observer_mode", r.observerMode),
      ("attributes", .ofOption Attributes.toValue r.attributes)]

def receipt (r : Receipt) : Attempt Text := do
  post Path.receipts (receiptIdentity r (← Attempt.ofValues (productIdentity? r.product)))

def offerSigning (o : OfferRequest) : Attempt Text :=
  post Path.offers
    (.record
      [("app_user_id", o.appUserId),
        ("fetch_token", o.fetchToken),
        ("offer_id", o.offerIdentifier),
        ("product_id", o.productIdentifier),
        ("subscription_group", o.subscriptionGroup)])

/-- The text under which receipt data is sent. -/
def fetchToken (receiptData : List UInt8) : Text := Base64.encode receiptData

end RequestKey

end SubscriptionClient
