import SubscriptionClient.Value.Basic

/-!
# Backend error codes

The codes that the backend puts into its error envelope. A code that is not listed is unknown.
-/

namespace SubscriptionClient

inductive BackendCode where
  | unknown
  | storeProblem
  | cannotTransferPurchase
  | invalidReceipt
  | invalidAppStoreSharedSecret
  | invalidPaymentModeOrIntroPriceNotProvided
  | productIdentifierMissing
  | invalidAppleSubscriptionKey
  | invalidAuthToken
  | invalidSubscriberAttributes
  | invalidSubscriberAttributesBody
  deriving DecidableEq

namespace BackendCode

def all : List BackendCode :=
  [unknown, storeProblem, cannotTransferPurchase, invalidReceipt, invalidAppStoreSharedSecret,
    invalidPaymentModeOrIntroPriceNotProvided, productIdentifierMissing,
    invalidAppleSubscriptionKey, invalidAuthToken, invalidSubscriberAttributes,
    invalidSubscriberAttributesBody]

theorem mem_all (c : BackendCode) : c ∈ all := by
  cases c <;> decide

def number : BackendCode → Int
  | unknown => -1
  | storeProblem => 7101
  | cannotTransferPurchase => 7102
  | invalidReceipt => 7103
  | invalidAppStoreSharedSecret => 7104
  | invalidPaymentModeOrIntroPriceNotProvided => 7105
  | productIdentifierMissing => 7106
  | invalidAppleSubscriptionKey => 7107
  | invalidAuthToken => 7225
  | invalidSubscriberAttributes => 7263
  | invalidSubscriberAttributesBody => 7264

def name : BackendCode → String
  | unknown => "UNKNOWN"
  | storeProblem => "STORE_PROBLEM"
  | cannotTransferPurchase => "CANNOT_TRANSFER_PURCHASE"
  | invalidReceipt => "INVALID_RECEIPT"
  | invalidAppStoreSharedSecret => "INVALID_APP_STORE_SHARED_SECRET"
  | invalidPaymentModeOrIntroPriceNotProvided =>
    "INVALID_PAYMENT_MODE_OR_INTRO_PRICE_NOT_PROVIDED"
  | productIdentifierMissing => "PRODUCT_IDENTIFIER_MISSING"
  | invalidAppleSubscriptionKey => "INVALID_APPLE_SUBSCRIPTION_KEY"
  | invalidAuthToken => "INVALID_AUTH_TOKEN"
  | invalidSubscriberAttributes => "INVALID_SUBSCRIBER_ATTRIBUTES"
  | invalidSubscriberAttributesBody => "INVALID_SUBSCRIBER_ATTRIBUTES_BODY"

def ofNumber (n : Int) : BackendCode := (all.find? (·.number == n)).getD unknown

/-- Only integers are codes; truth values are not. -/
def ofValue : Value → BackendCode
  | .int n => ofNumber n
  | _ => unknown

end BackendCode

end SubscriptionClient
