import SubscriptionClient.Error.Failure

/-!
# Products

The store details of a purchase that go with a receipt, and the text that identifies them. What is
text here may be any value in a receipt, but only text identifies a product.
-/

namespace SubscriptionClient

inductive PaymentMode where
  | none
  | payAsYouGo
  | payUpFront
  | freeTrial
  deriving DecidableEq

namespace PaymentMode

def all : List PaymentMode := [none, payAsYouGo, payUpFront, freeTrial]

def code : PaymentMode → Int
  | none => -1
  | payAsYouGo => 0
  | payUpFront => 1
  | freeTrial => 2

def name : PaymentMode → String
  | none => "NONE"
  | payAsYouGo => "PAY_AS_YOU_GO"
  | payUpFront => "PAY_UP_FRONT"
  | freeTrial => "FREE_TRIAL"

def ofValue? (v : Value) : Option PaymentMode := all.find? fun m => (Value.int m.code).sameKey v

end PaymentMode

/-- What an introductory period is. -/
inductive IntroKind where
  | none
  | freeTrial
  | introPrice
  deriving DecidableEq

namespace IntroKind

def all : List IntroKind := [none, freeTrial, introPrice]

def word : IntroKind → String
  | none => "none"
  | freeTrial => "free_trial"
  | introPrice => "intro_price"

def name : IntroKind → String
  | none => "NONE"
  | freeTrial => "FREE_TRIAL"
  | introPrice => "INTRO_PRICE"

def ofValue? (v : Value) : Option IntroKind :=
  all.find? fun k => (Value.text k.word.toText).sameKey v

end IntroKind

structure Discount where
  offerIdentifier : Value
  price : Decimal
  paymentMode : PaymentMode

structure Product where
  identifier : Value
  price : Decimal
  currencyCode : Value
  paymentMode : PaymentMode
  normalDuration : Value
  introDuration : Value
  introKind : IntroKind
  subscriptionGroup : Value
  discounts : List Discount

namespace Discount

/-- Fails when the price is a signaling NaN. -/
def toValue? (d : Discount) : Option Value := do
  let price ← d.price.toDouble?
  return .record
    [("offer_identifier", d.offerIdentifier),
      ("price", .float price),
      ("payment_mode", .int d.paymentMode.code)]

/-- The text that identifies a discount whose offer can be shown. -/
def cacheKey? (d : Discount) : Option Text :=
  d.offerIdentifier.display?.map fun offer =>
    offer ++ "-".toText ++ d.price.text ++ "-".toText ++ Text.ofInt d.paymentMode.code

end Discount

namespace Product

/-- A field that is left out when its value is missing or empty. -/
def optionalField (name : String) (v : Value) : List (String × Value) :=
  if v.toBool then [(name, v)] else []

/-- The fields of a product in a receipt; fails when a price is a signaling NaN. -/
def fields? (p : Product) : Option (List (String × Value)) := do
  let price ← p.price.toDouble?
  let offers ← p.discounts.mapM Discount.toValue?
  return [("product_id", p.identifier), ("price", .float price)] ++
    optionalField "currency" p.currencyCode ++
    (if p.paymentMode = .none then [] else [("payment_mode", .int p.paymentMode.code)]) ++
    optionalField "normal_duration" p.normalDuration ++
    optionalField (if p.introKind = .freeTrial then "trial_duration" else "intro_duration")
      p.introDuration ++
    optionalField "subscription_group_id" p.subscriptionGroup ++
    (if offers.isEmpty then [] else [("offers", .list offers)])

/-- A part of the text that identifies a product. -/
def part : Value → Except Misuse Text
  | .text t => .ok t
  | v => .error (.notText v)

def optionalPart (v : Value) : Except Misuse Text := if v.toBool then part v else .ok []

/-- The parts that identify a product, discounts last. The discounts are written first. -/
def keyParts? (p : Product) : Except Misuse (List Text) := do
  let discounts ← p.discounts.mapM fun d => Misuse.ofWritten d.cacheKey?
  return [← part p.identifier, p.price.text, ← optionalPart p.currencyCode,
    Text.ofInt p.paymentMode.code, ← optionalPart p.normalDuration, ← optionalPart p.introDuration,
    p.introKind.word.toText, ← optionalPart p.subscriptionGroup] ++ discounts

def cacheKey? (p : Product) : Except Misuse Text :=
  p.keyParts?.map (List.intercalate "-".toText)

end Product

end SubscriptionClient
