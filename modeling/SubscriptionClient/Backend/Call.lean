import SubscriptionClient.Request.Operation
import SubscriptionClient.Value.Collection

/-!
# Calls

The nine calls that a caller can make. A call either raises, or is settled at once because it fails
a precondition or needs no request, or asks for an operation under a key.
-/

namespace SubscriptionClient

inductive Call where
  | getCustomerInfo (appUserId : Value)
  | postReceiptData (receiptData : List UInt8) (appUserId isRestore observerMode : Value)
      (product : Option Product) (presentedOfferingIdentifier : Value)
      (attributes : Option Attributes)
  | logIn (current new : Value)
  | createAlias (appUserId new : Value)
  | getOfferings (appUserId : Value)
  | postOfferForSigning (offerIdentifier productIdentifier subscriptionGroup : Value)
      (receiptData : List UInt8) (appUserId : Value)
  | getIntroEligibility (appUserId : Value) (receiptData : List UInt8) (products : Value)
  | postSubscriberAttributes (attributes : Option Attributes) (appUserId : Value)
  | postAttributionData (data : Value) (network : AttributionNetwork) (appUserId : Value)
  /-- A call whose arguments do not fit. -/
  | unfit (endpoint : Endpoint) (m : Misuse)

/-- An operation with the key that it is shared under. -/
structure Job where
  operation : Operation
  key : Text

inductive Admission where
  | raised (fault : Fault)
  | settled (outcome : Attempt Outcome)
  | dispatch (job : Job)

namespace Admission

def request (o : Operation) : Admission :=
  match o.key? with
  | .ok key => .dispatch ⟨o, key⟩
  | .error fault => .raised fault

/-- Goes on with the escaped form of a user's identifier, which has to exist. -/
def withUser (appUserId : Value) (next : Text → Admission) : Admission :=
  match Path.escapeUserId? appUserId with
  | some escaped => next escaped
  | none => .settled (.error (.client .missingAppUserId))

/-- The failure of a call for eligibilities that has no usable user: they travel in the context. -/
def missingUserOf (unknown : List (Value × Eligibility)) : ClientError :=
  { ClientError.missingAppUserId with
    context :=
      [(.text ClientError.eligibilitiesKey.toText,
        .map (unknown.map fun e => (e.1, .text e.2.name.toText)))] }

/-- No products need no answer, and without a receipt nothing is known; only then does the user
count. -/
def introEligibility (appUserId : Value) (receiptData : List UInt8) :
    List Value → Admission
  | [] => .settled (.ok (.eligibilities []))
  | products =>
    match receiptData, Path.escapeUserId? appUserId with
    | _ :: _, some escaped =>
      request (.getIntroEligibility escaped (.text (RequestKey.fetchToken receiptData)) products)
    | receipt, _ => match Response.unknownEligibilities products with
      | .error fault => .raised fault
      | .ok unknown =>
        if receipt.isEmpty then .settled (.ok (.eligibilities unknown))
        else .settled (.error (.client (missingUserOf unknown)))

end Admission

namespace Call

open Admission

def admission : Call → Admission
  | getCustomerInfo appUserId => withUser appUserId fun escaped =>
    request (.getCustomerInfo escaped)
  | postReceiptData receiptData appUserId isRestore observerMode product offering attributes =>
    withUser appUserId fun _ =>
      request (.postReceipt
        { fetchToken := .text (RequestKey.fetchToken receiptData)
          appUserId
          isRestore
          observerMode
          product
          presentedOfferingIdentifier := offering
          attributes })
  | logIn current new =>
    if current.toBool && new.toBool then request (.logIn current new)
    else .settled (.error (.client .missingAppUserId))
  | createAlias appUserId new => withUser appUserId fun escaped =>
    request (.createAlias escaped new)
  | getOfferings appUserId => withUser appUserId fun escaped => request (.getOfferings escaped)
  | postOfferForSigning offer product group receiptData appUserId => withUser appUserId fun _ =>
    request (.signOffer
      { appUserId
        fetchToken := .text (RequestKey.fetchToken receiptData)
        offerIdentifier := offer
        productIdentifier := product
        subscriptionGroup := group })
  | getIntroEligibility _ _ (.text _) => .raised (.misuse .productText)
  | getIntroEligibility appUserId receiptData products => match products.items? with
    | .ok items => introEligibility appUserId receiptData items
    | .error m => .raised (.misuse m)
  | postSubscriberAttributes attributes appUserId => match attributes with
    | none | some [] => .settled (.error (.client .emptySubscriberAttributes))
    | some attributes => withUser appUserId fun escaped =>
      request (.postAttributes escaped attributes)
  | postAttributionData data network appUserId => withUser appUserId fun escaped =>
    match data.toMembers? with
    | .ok members => request (.postAttribution escaped network members)
    | .error m => .raised (.misuse m)
  | unfit _ m => .raised (.misuse m)

end Call

end SubscriptionClient
