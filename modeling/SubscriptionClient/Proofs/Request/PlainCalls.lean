import SubscriptionClient.Backend.Call
import SubscriptionClient.Proofs.Request.Bodies
import SubscriptionClient.Proofs.Value.Plain

/-!
# Plain calls

A plain call has the arguments that its parameters are declared for: identifiers are texts, flags
are truth values, and the rest is plain JSON. An accepted one asks for an operation whose identity
is plain, and the arguments can be read back from that operation.
-/

namespace SubscriptionClient

open Value

namespace Call

/-- Whether the arguments of a call are plain. A receipt then goes without a product. -/
def IsPlain : Call → Prop
  | getCustomerInfo user | getOfferings user => user.IsIdentifier
  | postReceiptData _ user isRestore observerMode product offering attributes =>
    user.IsIdentifier ∧ isRestore.IsFlag ∧ observerMode.IsFlag ∧ product = none ∧
      offering.IsOptional ∧ ∀ as ∈ attributes, as.toValue.IsPlain
  | logIn current new => current.IsIdentifier ∧ new.IsIdentifier
  | createAlias user new => user.IsIdentifier ∧ new.IsIdentifier
  | postOfferForSigning offer product group _ user =>
    offer.IsIdentifier ∧ product.IsIdentifier ∧ group.IsIdentifier ∧ user.IsIdentifier
  | getIntroEligibility user _ products =>
    user.IsIdentifier ∧ ∀ items, products.items? = .ok items → ∀ item ∈ items, item.IsIdentifier
  | postSubscriberAttributes attributes user =>
    (∀ as ∈ attributes, as.toValue.IsPlain) ∧ user.IsIdentifier
  | postAttributionData data _ user =>
    (∀ members, data.toMembers? = .ok members → (Value.map members).IsPlain) ∧ user.IsIdentifier
  | unfit _ _ => False

def ids : Call → List Value
  | getCustomerInfo user | getOfferings user | postSubscriberAttributes _ user
  | postAttributionData _ _ user => [user]
  | postReceiptData _ user _ _ _ offering _ => [user, offering]
  | logIn current new => [current, new]
  | createAlias user new => [user, new]
  | postOfferForSigning offer product group _ user => [offer, product, group, user]
  | getIntroEligibility user _ products => match products.items? with
    | .ok items => user :: items
    | .error _ => [user]
  | unfit _ _ => []

def receiptBytes? : Call → Option (List UInt8)
  | postReceiptData receipt _ _ _ _ _ _ | postOfferForSigning _ _ _ receipt _
  | getIntroEligibility _ receipt _ => some receipt
  | _ => none

/-- The operations that calls ask for. -/
inductive Asks : Call → Operation → Prop where
  | getCustomerInfo {user : Value} {e : Text} (he : Path.escapeUserId? user = some e) :
    Asks (.getCustomerInfo user) (.getCustomerInfo e)
  | postReceiptData {user : Value} {e : Text} (he : Path.escapeUserId? user = some e)
    (receipt : List UInt8) (isRestore observerMode : Value) (product : Option Product)
    (offering : Value) (attributes : Option Attributes) :
    Asks (.postReceiptData receipt user isRestore observerMode product offering attributes)
      (.postReceipt ⟨.text (RequestKey.fetchToken receipt), user, isRestore, observerMode, product,
        offering, attributes⟩)
  | logIn (current new : Value) : Asks (.logIn current new) (.logIn current new)
  | createAlias {user : Value} {e : Text} (he : Path.escapeUserId? user = some e) (new : Value) :
    Asks (.createAlias user new) (.createAlias e new)
  | getOfferings {user : Value} {e : Text} (he : Path.escapeUserId? user = some e) :
    Asks (.getOfferings user) (.getOfferings e)
  | postOfferForSigning {user : Value} {e : Text} (he : Path.escapeUserId? user = some e)
    (offer product group : Value) (receipt : List UInt8) :
    Asks (.postOfferForSigning offer product group receipt user)
      (.signOffer ⟨user, .text (RequestKey.fetchToken receipt), offer, product, group⟩)
  | getIntroEligibility {user products : Value} {e : Text} {items : List Value}
    (he : Path.escapeUserId? user = some e) (hi : products.items? = .ok items)
    (receipt : List UInt8) :
    Asks (.getIntroEligibility user receipt products)
      (.getIntroEligibility e (.text (RequestKey.fetchToken receipt)) items)
  | postSubscriberAttributes {user : Value} {e : Text} (he : Path.escapeUserId? user = some e)
    (attributes : Attributes) :
    Asks (.postSubscriberAttributes (some attributes) user) (.postAttributes e attributes)
  | postAttributionData {user data : Value} {e : Text} {members : List (Value × Value)}
    (he : Path.escapeUserId? user = some e) (hm : data.toMembers? = .ok members)
    (network : AttributionNetwork) :
    Asks (.postAttributionData data network user) (.postAttribution e network members)

end Call

namespace Admission

variable {j : Job}

theorem eq_of_request {o : Operation} (h : request o = .dispatch j) :
    j.operation = o ∧ o.key? = .ok j.key := by
  unfold request at h
  split at h
  · rename_i key hkey
    obtain rfl := Admission.dispatch.inj h
    exact ⟨rfl, hkey⟩
  · cases h

theorem exists_of_withUser {user : Value} {next : Text → Admission}
    (h : withUser user next = .dispatch j) :
    ∃ e, Path.escapeUserId? user = some e ∧ next e = .dispatch j := by
  unfold withUser at h
  split at h
  · rename_i e he
    exact ⟨e, he, h⟩
  · cases h

theorem exists_of_introEligibility {user : Value} {receipt : List UInt8} {items : List Value}
    (h : introEligibility user receipt items = .dispatch j) :
    ∃ e, Path.escapeUserId? user = some e ∧
      request (.getIntroEligibility e (.text (RequestKey.fetchToken receipt)) items) =
        .dispatch j := by
  unfold introEligibility at h
  split at h
  · cases h
  · split at h
    · rename_i e he
      exact ⟨e, he, h⟩
    · split at h
      · cases h
      · split at h <;> cases h

end Admission

namespace Call

open Admission

variable {c d : Call} {o p : Operation}

theorem exists_items_of_dispatch {user products : Value} {receipt : List UInt8} {j : Job}
    (h : (getIntroEligibility user receipt products).admission = .dispatch j) :
    ∃ items, products.items? = .ok items ∧ introEligibility user receipt items = .dispatch j := by
  unfold admission at h
  split at h <;> try contradiction
  rename_i heq
  obtain ⟨rfl, rfl, rfl⟩ := Call.getIntroEligibility.inj heq
  split at h
  · rename_i items hi
    exact ⟨items, hi, h⟩
  · cases h

theorem asks_of_admission {j : Job} (h : c.admission = .dispatch j) :
    Asks c j.operation ∧ j.operation.key? = .ok j.key := by
  cases c with
  | getCustomerInfo user =>
    obtain ⟨e, he, hrequest⟩ := exists_of_withUser h
    obtain ⟨ho, hkey⟩ := eq_of_request hrequest
    exact ⟨ho ▸ .getCustomerInfo he, ho ▸ hkey⟩
  | postReceiptData receipt user isRestore observerMode product offering attributes =>
    obtain ⟨e, he, hrequest⟩ := exists_of_withUser h
    obtain ⟨ho, hkey⟩ := eq_of_request hrequest
    exact ⟨ho ▸ .postReceiptData he receipt isRestore observerMode product offering attributes,
      ho ▸ hkey⟩
  | logIn current new =>
    rw [admission] at h
    split at h
    · obtain ⟨ho, hkey⟩ := eq_of_request h
      exact ⟨ho ▸ .logIn current new, ho ▸ hkey⟩
    · cases h
  | createAlias user new =>
    obtain ⟨e, he, hrequest⟩ := exists_of_withUser h
    obtain ⟨ho, hkey⟩ := eq_of_request hrequest
    exact ⟨ho ▸ .createAlias he new, ho ▸ hkey⟩
  | getOfferings user =>
    obtain ⟨e, he, hrequest⟩ := exists_of_withUser h
    obtain ⟨ho, hkey⟩ := eq_of_request hrequest
    exact ⟨ho ▸ .getOfferings he, ho ▸ hkey⟩
  | postOfferForSigning offer product group receipt user =>
    obtain ⟨e, he, hrequest⟩ := exists_of_withUser h
    obtain ⟨ho, hkey⟩ := eq_of_request hrequest
    exact ⟨ho ▸ .postOfferForSigning he offer product group receipt, ho ▸ hkey⟩
  | getIntroEligibility user receipt products =>
    obtain ⟨items, hi, h⟩ := exists_items_of_dispatch h
    obtain ⟨e, he, hrequest⟩ := exists_of_introEligibility h
    obtain ⟨ho, hkey⟩ := eq_of_request hrequest
    exact ⟨ho ▸ .getIntroEligibility he hi receipt, ho ▸ hkey⟩
  | postSubscriberAttributes attributes user =>
    cases attributes with
    | none => cases h
    | some attributes =>
      cases attributes with
      | nil => cases h
      | cons a as =>
        obtain ⟨e, he, hrequest⟩ := exists_of_withUser h
        obtain ⟨ho, hkey⟩ := eq_of_request hrequest
        exact ⟨ho ▸ .postSubscriberAttributes he (a :: as), ho ▸ hkey⟩
  | postAttributionData data network user =>
    obtain ⟨e, he, h⟩ := exists_of_withUser h
    split at h
    · rename_i members hm
      obtain ⟨ho, hkey⟩ := eq_of_request h
      exact ⟨ho ▸ .postAttributionData he hm network, ho ▸ hkey⟩
    · cases h
  | unfit => cases h

/-! ## What a plain call asks for -/

theorem escapeUserId?_inj {v w : Value} {e : Text} (hv : Path.escapeUserId? v = some e)
    (hw : Path.escapeUserId? w = some e) : v = w := by
  unfold Path.escapeUserId? at hv hw
  split at hv <;> try contradiction
  split at hw <;> try contradiction
  rw [Percent.escape?_inj hv hw]

theorem slash_notMem_of_escapeUserId? {v : Value} {e : Text}
    (h : Path.escapeUserId? v = some e) : Endpoint.slash ∉ e := by
  unfold Path.escapeUserId? at h
  split at h <;> try contradiction
  exact Percent.slash_notMem_of_escape? h

theorem Asks.slash_notMem (h : Asks c o) : Endpoint.slash ∉ o.user := by
  cases h <;> first
    | exact List.not_mem_nil
    | exact slash_notMem_of_escapeUserId? (by assumption)

theorem Asks.product?_eq_none (h : Asks c o) (hc : c.IsPlain) : o.product? = none := by
  cases h with
  | postReceiptData => exact hc.2.2.2.1
  | _ => rfl

theorem isPlain_fetchToken (receipt : List UInt8) :
    (Value.text (RequestKey.fetchToken receipt)).IsPlain :=
  .text (Base64.isClean_encode receipt)

/-- A plain call has a plain identity. -/
theorem Asks.exists_identity (h : Asks c o) (hc : c.IsPlain) :
    ∃ v, o.identity? = .ok v ∧ v.IsPlain := by
  cases h with
  | getCustomerInfo | getOfferings => exact ⟨_, rfl, .null⟩
  | postReceiptData he receipt isRestore observerMode product offering attributes =>
    obtain ⟨hu, hr, ho, rfl, hi, ha⟩ := hc
    refine ⟨_, rfl, isPlain_record Receipt.identityNames (by decide) rfl ?_⟩
    have ha' : (Value.ofOption Attributes.toValue attributes).IsPlain := by
      cases attributes with
      | none => exact .null
      | some as => exact ha as rfl
    simp only [List.forall_mem_cons]
    exact ⟨hu.isPlain, hr.isPlain, isPlain_fetchToken receipt, .null, hi.isPlain, ho.isPlain, ha', nofun⟩
  | logIn current new =>
    refine ⟨_, rfl, .list ?_⟩
    simp only [List.forall_mem_cons]
    exact ⟨hc.1.isPlain, hc.2.isPlain, nofun⟩
  | createAlias he new =>
    refine ⟨_, rfl, .list ?_⟩
    simp only [List.forall_mem_cons]
    exact ⟨hc.2.isPlain, nofun⟩
  | postOfferForSigning he offer product group receipt =>
    obtain ⟨ho, hp, hg, hu⟩ := hc
    refine ⟨_, rfl, isPlain_record Operation.offerNames (by decide) rfl ?_⟩
    simp only [List.forall_mem_cons]
    exact ⟨hu.isPlain, isPlain_fetchToken receipt, ho.isPlain, hp.isPlain, hg.isPlain, nofun⟩
  | getIntroEligibility he hi receipt =>
    have hitems := IsPlain.list fun item h => (hc.2 _ hi item h).isPlain
    refine ⟨_, rfl, isPlain_record Operation.eligibilityNames (by decide) rfl ?_⟩
    simp only [List.forall_mem_cons]
    exact ⟨isPlain_fetchToken receipt, hitems, nofun⟩
  | postSubscriberAttributes he attributes => exact ⟨_, rfl, hc.1 attributes rfl⟩
  | postAttributionData he hm network =>
    refine ⟨_, rfl, isPlain_record Operation.attributionNames (by decide) rfl ?_⟩
    simp only [List.forall_mem_cons]
    exact ⟨.int network.code, hc.1 _ hm, nofun⟩

theorem Asks.exists_body (h : Asks c o) (hc : c.IsPlain) : ∃ b, o.body = .ok b := by
  cases h with
  | postReceiptData he receipt isRestore observerMode product offering attributes =>
    obtain ⟨-, -, -, rfl, -, -⟩ := hc
    exact ⟨_, rfl⟩
  | _ => exact ⟨_, rfl⟩

theorem fetchToken_inj {r s : List UInt8}
    (h : SameJson (.text (RequestKey.fetchToken r)) (.text (RequestKey.fetchToken s))) : r = s :=
  Base64.encode_inj (sameJson_text_iff.mp h)

/-- The path and the identity of a plain call tell its identifiers and its receipt. -/
theorem Asks.read_back {v w : Value} (ho : Asks c o) (hp : Asks d p) (hc : c.IsPlain)
    (hd : d.IsPlain) (he : o.endpoint = p.endpoint) (hu : o.user = p.user)
    (hv : o.identity? = .ok v) (hw : p.identity? = .ok w) (h : SameJson v w) :
    c.ids = d.ids ∧ c.receiptBytes? = d.receiptBytes? := by
  -- the two sides ask for operations of one kind, and `hu` equates their escaped users
  cases ho with
  | getCustomerInfo ha =>
    cases hp with
    | getCustomerInfo hb =>
      cases hu
      obtain rfl := escapeUserId?_inj ha hb
      exact ⟨rfl, rfl⟩
    | _ => cases he
  | postReceiptData ha receipt =>
    cases hp with
    | postReceiptData hb receipt' =>
      obtain ⟨hident, -, -, rfl, hoffering, -⟩ := hc
      obtain ⟨-, -, -, rfl, -, -⟩ := hd
      cases hv
      cases hw
      obtain ⟨hrest, -⟩ := Receipt.sameJson_identity_iff.mp h
      obtain rfl := hident.eq_of_sameJson hrest.appUserId
      obtain rfl := fetchToken_inj hrest.fetchToken
      obtain rfl := hoffering.eq_of_sameJson hrest.offering
      exact ⟨rfl, rfl⟩
    | _ => cases he
  | logIn current new =>
    cases hp with
    | logIn current' new' =>
      cases hv
      cases hw
      obtain ⟨hcurrent, h⟩ := sameJson_cons_iff.mp h
      obtain ⟨hnew, -⟩ := sameJson_cons_iff.mp h
      obtain rfl := hc.1.eq_of_sameJson hcurrent
      obtain rfl := hc.2.eq_of_sameJson hnew
      exact ⟨rfl, rfl⟩
    | _ => cases he
  | createAlias ha new =>
    cases hp with
    | createAlias hb new' =>
      cases hu
      cases hv
      cases hw
      obtain rfl := escapeUserId?_inj ha hb
      obtain rfl := hc.2.eq_of_sameJson (sameJson_cons_iff.mp h).1
      exact ⟨rfl, rfl⟩
    | _ => cases he
  | getOfferings ha =>
    cases hp with
    | getOfferings hb =>
      cases hu
      obtain rfl := escapeUserId?_inj ha hb
      exact ⟨rfl, rfl⟩
    | _ => cases he
  | postOfferForSigning ha offer product group receipt =>
    cases hp with
    | postOfferForSigning hb offer' product' group' receipt' =>
      obtain ⟨ho, hp, hg, hident⟩ := hc
      cases hv
      cases hw
      have hfields := (sameJson_record_iff Operation.offerNames (by decide) rfl rfl).mp h
      simp only [List.forall₂_cons] at hfields
      obtain ⟨huser, hreceipt, hoffer, hproduct, hgroup, -⟩ := hfields
      obtain rfl := hident.eq_of_sameJson huser
      obtain rfl := fetchToken_inj hreceipt
      obtain rfl := ho.eq_of_sameJson hoffer
      obtain rfl := hp.eq_of_sameJson hproduct
      obtain rfl := hg.eq_of_sameJson hgroup
      exact ⟨rfl, rfl⟩
    | _ => cases he
  | getIntroEligibility ha hi receipt =>
    cases hp with
    | getIntroEligibility hb hi' receipt' =>
      cases hu
      cases hv
      cases hw
      have hfields := (sameJson_record_iff Operation.eligibilityNames (by decide) rfl rfl).mp h
      simp only [List.forall₂_cons] at hfields
      obtain ⟨hreceipt, hitems, -⟩ := hfields
      obtain rfl := escapeUserId?_inj ha hb
      obtain rfl := fetchToken_inj hreceipt
      obtain rfl := eq_of_sameJson_list (hc.2 _ hi) hitems
      exact ⟨by rw [ids, ids, hi, hi'], rfl⟩
    | _ => cases he
  | postSubscriberAttributes ha attributes =>
    cases hp with
    | postSubscriberAttributes hb attributes' =>
      cases hu
      obtain rfl := escapeUserId?_inj ha hb
      exact ⟨rfl, rfl⟩
    | _ => cases he
  | postAttributionData ha hm network =>
    cases hp with
    | postAttributionData hb hm' network' =>
      cases hu
      obtain rfl := escapeUserId?_inj ha hb
      exact ⟨rfl, rfl⟩
    | _ => cases he

/-- An answer is classified by the endpoint and, for eligibilities, by the products asked for. -/
theorem Asks.handle_eq (ho : Asks c o) (hp : Asks d p) (he : o.endpoint = p.endpoint)
    (h : c.ids = d.ids) : o.handle = p.handle := by
  cases ho with
  | getIntroEligibility ha hi =>
    cases hp with
    | getIntroEligibility hb hi' =>
      rw [ids, ids, hi, hi'] at h
      obtain ⟨-, rfl⟩ := List.cons.inj h
      rfl
    | _ => cases he
  | _ => cases hp <;> first | rfl | cases he

end Call

/-- A call that fetches something has the job of any other that fetches from the same path. -/
theorem Job.eq_of_fetch {c d : Call} {j k : Job} (hj : c.admission = .dispatch j)
    (hk : d.admission = .dispatch k) (hm : j.operation.method = .get)
    (hm' : k.operation.method = .get) (hpath : j.operation.path = k.operation.path) : j = k := by
  obtain ⟨hasks, hkey⟩ := Call.asks_of_admission hj
  obtain ⟨hasks', hkey'⟩ := Call.asks_of_admission hk
  have hoperation : j.operation = k.operation :=
    Operation.eq_of_fetch hasks.slash_notMem hasks'.slash_notMem hm hm' hpath
  rw [hoperation, hkey'] at hkey
  cases j
  cases k
  simp_all

end SubscriptionClient
