import SubscriptionClient.Proofs.Request.Identity
import SubscriptionClient.Proofs.Request.ReceiptFields
import SubscriptionClient.Request.Exchange

/-!
# Bodies

Two posts to one endpoint have bodies that are the same JSON exactly when their identities are. A
receipt with a product is the exception: the product enters the identity as one text and the body
field by field.
-/

namespace SubscriptionClient.Operation

open Value RequestKey

/-- The product that a receipt goes with. -/
def product? : Operation → Option Product
  | postReceipt receipt => receipt.product
  | _ => none

variable {o p : Operation} {b c v w : Value}

theorem sameJson_body_iff (he : o.endpoint = p.endpoint) (hm : o.method = .post)
    (ho : o.product? = none) (hp : p.product? = none) (hv : o.identity? = .ok v)
    (hw : p.identity? = .ok w) (hb : o.body = .ok b) (hc : p.body = .ok c) :
    SameJson b c ↔ SameJson v w := by
  cases o <;> cases p <;> cases he
  case getCustomerInfo.getCustomerInfo => cases hm
  case getOfferings.getOfferings => cases hm
  case postReceipt.postReceipt r s =>
    have hr : Product.fieldsIn? r.product = some (Product.names.map fun n => (n, none)) := by
      rw [show r.product = none from ho]
      rfl
    have hs : Product.fieldsIn? s.product = some (Product.names.map fun n => (n, none)) := by
      rw [show s.product = none from hp]
      rfl
    have hproduct : List.Forall₂ (fun f g : String × Option Value => Option.Rel SameJson f.2 g.2)
        (Product.names.map fun n => (n, none)) (Product.names.map fun n => (n, none)) := by
      rw [List.forall₂_map_left_iff, List.forall₂_map_right_iff, List.forall₂_same]
      exact fun _ _ => .none
    rw [identity?, show r.product = none from ho] at hv
    rw [identity?, show s.product = none from hp] at hw
    obtain rfl := Except.ok.inj hv
    obtain rfl := Except.ok.inj hw
    obtain rfl := Except.ok.inj ((Receipt.body_eq hr).symm.trans hb)
    obtain rfl := Except.ok.inj ((Receipt.body_eq hs).symm.trans hc)
    rw [Receipt.sameJson_body_iff hr hs, Receipt.sameJson_identity_iff]
    exact ⟨fun h => ⟨h.1, .null⟩, fun h => ⟨h.1, hproduct⟩⟩
  all_goals
    obtain rfl := Except.ok.inj hv
    obtain rfl := Except.ok.inj hw
    obtain rfl := Except.ok.inj hb
    obtain rfl := Except.ok.inj hc
  case logIn.logIn =>
    rw [sameJson_record_iff ["app_user_id", "new_app_user_id"] (by decide) rfl rfl]
    simp only [List.forall₂_cons, List.Forall₂.nil, sameJson_cons_iff, sameJson_nil]
  case createAlias.createAlias =>
    rw [sameJson_record_iff ["new_app_user_id"] (by decide) rfl rfl]
    simp only [List.forall₂_cons, List.Forall₂.nil, sameJson_cons_iff, sameJson_nil]
  case signOffer.signOffer =>
    rw [offerBody, offerBody, sameJson_record_iff ["app_user_id", "fetch_token", "generate_offers"]
      (by decide) rfl rfl, sameJson_record_iff offerNames (by decide) rfl rfl]
    simp only [List.forall₂_cons, List.Forall₂.nil, sameJson_cons_iff, sameJson_nil, and_true]
    rw [sameJson_record_iff ["offer_id", "product_id", "subscription_group"] (by decide) rfl rfl]
    simp only [List.forall₂_cons, List.Forall₂.nil, and_true]
  case getIntroEligibility.getIntroEligibility =>
    rw [sameJson_record_iff ["product_identifiers", "fetch_token"] (by decide) rfl rfl,
      sameJson_record_iff eligibilityNames (by decide) rfl rfl]
    simp only [List.forall₂_cons, List.Forall₂.nil, and_true]
    exact and_comm
  case postAttributes.postAttributes =>
    rw [sameJson_record_iff ["attributes"] (by decide) rfl rfl]
    simp only [List.forall₂_cons, List.Forall₂.nil, and_true]
  case postAttribution.postAttribution => exact Iff.rfl

end SubscriptionClient.Operation
