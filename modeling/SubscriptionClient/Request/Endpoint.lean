import SubscriptionClient.Request.Signature

/-!
# Endpoints

The nine kinds of requests that the backend serves, by the names that callers use.
-/

namespace SubscriptionClient

inductive Endpoint where
  | customerInfo
  | receipt
  | logIn
  | userAlias
  | offerings
  | offerSigning
  | introEligibility
  | attributes
  | attribution
  deriving DecidableEq

namespace Endpoint

def all : List Endpoint :=
  [customerInfo, receipt, logIn, userAlias, offerings, offerSigning, introEligibility, attributes,
    attribution]

theorem mem_all (e : Endpoint) : e ∈ all := by
  cases e <;> decide

def word : Endpoint → String
  | customerInfo => "customer_info"
  | receipt => "receipt"
  | logIn => "log_in"
  | userAlias => "alias"
  | offerings => "offerings"
  | offerSigning => "offer_signing"
  | introEligibility => "intro_eligibility"
  | attributes => "subscriber_attributes"
  | attribution => "attribution"

/-- The name of an operation in diagnostics. -/
def operationName : Endpoint → String
  | customerInfo => "GetCustomerInfoOperation"
  | receipt => "PostReceiptDataOperation"
  | logIn => "LogInOperation"
  | userAlias => "CreateAliasOperation"
  | offerings => "GetOfferingsOperation"
  | offerSigning => "PostOfferForSigningOperation"
  | introEligibility => "GetIntroEligibilityOperation"
  | attributes => "PostSubscriberAttributesOperation"
  | attribution => "PostAttributionDataOperation"

def callName : Endpoint → String
  | customerInfo => "get_customer_info"
  | receipt => "post_receipt_data"
  | logIn => "log_in"
  | userAlias => "create_alias"
  | offerings => "get_offerings"
  | offerSigning => "post_offer_for_signing"
  | introEligibility => "get_intro_eligibility"
  | attributes => "post_subscriber_attributes"
  | attribution => "post_attribution_data"

def ofWord? (w : String) : Option Endpoint := all.find? (·.word == w)

def ofOperationName? (n : String) : Option Endpoint := all.find? (·.operationName == n)

def ofCallName? (n : String) : Option Endpoint := all.find? (·.callName == n)

def signature (e : Endpoint) : Signature where
  name := e.operationName
  required := match e with
    | customerInfo | offerings => ["escaped_app_user_id"]
    | receipt =>
      ["fetch_token", "app_user_id", "is_restore", "observer_mode", "product_info",
        "presented_offering_identifier", "subscriber_attributes"]
    | logIn => ["current_app_user_id", "new_app_user_id"]
    | userAlias => ["escaped_app_user_id", "new_app_user_id"]
    | offerSigning =>
      ["app_user_id", "fetch_token", "offer_identifier", "product_identifier",
        "subscription_group"]
    | introEligibility => ["escaped_app_user_id", "fetch_token", "product_identifiers"]
    | attributes => ["escaped_app_user_id", "subscriber_attributes"]
    | attribution => ["escaped_app_user_id", "network", "attribution_data"]
  optional := []

def callSignature (e : Endpoint) : Signature where
  name := "Backend." ++ e.callName
  required := match e with
    | customerInfo | offerings => ["app_user_id"]
    | receipt => ["receipt_data", "app_user_id", "is_restore", "observer_mode"]
    | logIn => ["current_app_user_id", "new_app_user_id"]
    | userAlias => ["app_user_id", "new_app_user_id"]
    | offerSigning =>
      ["offer_identifier", "product_identifier", "subscription_group", "receipt_data",
        "app_user_id"]
    | introEligibility => ["app_user_id", "receipt_data", "product_identifiers"]
    | attributes => ["subscriber_attributes", "app_user_id"]
    | attribution => ["attribution_data", "network", "app_user_id"]
  optional := match e with
    | receipt => ["product_info", "presented_offering_identifier", "subscriber_attributes"]
    | _ => []

end Endpoint

end SubscriptionClient
