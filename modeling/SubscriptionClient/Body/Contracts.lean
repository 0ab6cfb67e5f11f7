import SubscriptionClient.Schema.Basic

/-!
# Bodies of the backend

The schemas of the bodies that the backend sends. Error envelopes and signatures are lenient: a
member of the wrong kind counts as absent.
-/

namespace SubscriptionClient.Body

/-! ## Lenient members -/

/-- Anything but text counts as absent. -/
def textOrAbsent : Value → Option Value
  | .text t => some (.text t)
  | _ => some .null

/-- Anything but an integer counts as absent, truth values too. -/
def integerOrAbsent : Value → Option Value
  | .int n => some (.int n)
  | _ => some .null

def listOrAbsent : Value → Option Value
  | .list vs => some (.list vs)
  | _ => some .null

def mappingOrAbsent : Value → Option Value
  | .map es => some (.map es)
  | _ => some .null

/-- Whether a text is made of digits of any kind, after leading minus signs and inside blanks. -/
def looksNumeric (t : Text) : Bool :=
  let digits := t.strip.dropWhile (· == CodePoint.ofChar '-')
  !digits.isEmpty && digits.all CodePoint.isDigit

/-- An error code is an integer, or text that looks like one. Such text that is no numeral after
all is refused; anything else counts as absent. -/
def codeOrAbsent : Value → Option Value
  | .int n => some (.int n)
  | .text t => if looksNumeric t then (Numeral.decimal? t).map Value.int else some .null
  | _ => some .null

/-! ## Errors -/

def attributeErrorList : Schema := .nullable (.list (.mapping .anything))

def attributesErrorResponse : Schema :=
  .ofFields [("attribute_errors", false, attributeErrorList)]

def errorEnvelope : Schema :=
  .ofFields
    [("code", false, .screened codeOrAbsent (.nullable .integer)),
      ("message", false, .screened textOrAbsent (.nullable .text)),
      ("attribute_errors", false, .screened listOrAbsent attributeErrorList),
      ("attributes_error_response", false,
        .screened mappingOrAbsent (.nullable attributesErrorResponse))]

/-! ## Customer info -/

def optionalDateTime : Schema := .nullable .dateTime

def optionalText : Schema := .nullable .text

def entitlement : Schema :=
  .ofFields
    [("product_identifier", true, .text),
      ("purchase_date", false, optionalDateTime),
      ("expires_date", false, optionalDateTime),
      ("grace_period_expires_date", false, optionalDateTime)]

def subscription : Schema :=
  .ofFields
    [("purchase_date", false, optionalDateTime),
      ("original_purchase_date", false, optionalDateTime),
      ("expires_date", false, optionalDateTime),
      ("period_type", false, optionalText),
      ("store", false, optionalText),
      ("is_sandbox", false, .boolean),
      ("unsubscribe_detected_at", false, optionalDateTime),
      ("billing_issues_detected_at", false, optionalDateTime),
      ("ownership_type", false, optionalText)]

def nonSubscriptionTransaction : Schema :=
  .ofFields
    [("id", true, .text),
      ("purchase_date", true, .dateTime),
      ("store", false, optionalText),
      ("is_sandbox", false, .boolean)]

def subscriber : Schema :=
  .ofFields
    [("original_app_user_id", true, .text),
      ("first_seen", true, .dateTime),
      ("original_application_version", false, optionalText),
      ("original_purchase_date", false, optionalDateTime),
      ("management_url", false, optionalText),
      ("entitlements", false, .mapping entitlement),
      ("subscriptions", false, .mapping subscription),
      ("non_subscriptions", false, .mapping (.list nonSubscriptionTransaction))]

def customerInfo : Schema :=
  .ofFields
    [("request_date", true, .dateTime),
      ("request_date_ms", false, .nullable .integer),
      ("subscriber", true, subscriber)]

/-! ## Offerings and offers -/

def package : Schema :=
  .ofFields [("identifier", true, .text), ("platform_product_identifier", true, .text)]

def offering : Schema :=
  .ofFields
    [("identifier", true, .text), ("description", false, .text), ("packages", false, .list package)]

def offerings : Schema :=
  .ofFields [("current_offering_id", false, optionalText), ("offerings", false, .list offering)]

def signatureData : Schema :=
  .ofFields
    [("signature", false, .screened textOrAbsent optionalText),
      ("nonce", false, .screened textOrAbsent optionalText),
      ("timestamp", false, .screened integerOrAbsent (.nullable .integer))]

def contracts : List (String × Schema) :=
  [("AttributesErrorResponse", attributesErrorResponse),
    ("BackendErrorEnvelope", errorEnvelope),
    ("EntitlementContract", entitlement),
    ("SubscriptionContract", subscription),
    ("NonSubscriptionTransactionContract", nonSubscriptionTransaction),
    ("SubscriberContract", subscriber),
    ("CustomerInfoResponse", customerInfo),
    ("PackageContract", package),
    ("OfferingContract", offering),
    ("OfferingsResponse", offerings),
    ("SignatureDataContract", signatureData)]

end SubscriptionClient.Body
