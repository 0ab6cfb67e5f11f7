import SubscriptionClient.Proofs.Request.Gates
import SubscriptionClient.Proofs.Request.SameRequest
import SubscriptionClient.Proofs.Response.Eligibilities

/-!
# Calls for the eligibility of products

A call that names its products by texts never raises: it is settled at once or asks for a request.
Under one key such calls name the same products, so the answer to one of them is an answer to all.
-/

namespace SubscriptionClient

theorem Value.IsUserId.isIdentifier {v : Value} (h : v.IsUserId) : v.IsIdentifier := by
  obtain ⟨t, rfl, -, ht⟩ := h
  refine ⟨t, rfl, Text.isClean_of_lt fun c hc => ?_⟩
  have hsurrogate := ht c hc
  rw [CodePoint.isSurrogate_eq_or, Bool.or_eq_false_iff] at hsurrogate
  exact hsurrogate.1

namespace Call

open Admission

/-- Whether a call for eligibilities names its products by texts that JSON tells apart. -/
def NamesProducts : Call → Prop
  | getIntroEligibility _ _ products =>
    ∀ items, products.items? = .ok items → ∀ item ∈ items, item.IsIdentifier
  | _ => True

variable {user products : Value} {receipt : List UInt8} {c d : Call} {j k : Job}

theorem NamesProducts.isPlain (h : (getIntroEligibility user receipt products).NamesProducts)
    (hj : (getIntroEligibility user receipt products).admission = .dispatch j) :
    (getIntroEligibility user receipt products).IsPlain := by
  obtain ⟨items, -, hadmission⟩ := exists_items_of_dispatch hj
  obtain ⟨e, he, -⟩ := exists_of_introEligibility hadmission
  exact ⟨(Path.escapeUserId?_isSome_iff.mp ⟨e, he⟩).isIdentifier, h⟩

theorem exists_of_asks_introEligibility {o : Operation} (h : Asks c o)
    (hf : o.family = .introEligibility) :
    ∃ user receipt products, c = getIntroEligibility user receipt products := by
  cases h with
  | getIntroEligibility => exact ⟨_, _, _, rfl⟩
  | _ => cases hf

/-- Calls for eligibilities under one key are answered alike. -/
theorem NamesProducts.handle_eq (hc : c.NamesProducts) (hd : d.NamesProducts)
    (hj : c.admission = .dispatch j) (hk : d.admission = .dispatch k) (h : j.key = k.key)
    (hf : j.operation.family = .introEligibility) (hf' : k.operation.family = .introEligibility)
    (hno : ¬j.operation.Collides k.operation) : j.operation.handle = k.operation.handle := by
  have hasks := (asks_of_admission hj).1
  have hasks' := (asks_of_admission hk).1
  obtain ⟨user, receipt, products, rfl⟩ := exists_of_asks_introEligibility hasks hf
  obtain ⟨user', receipt', products', rfl⟩ := exists_of_asks_introEligibility hasks' hf'
  obtain ⟨he, hids, -⟩ := same_of_key_eq (hc.isPlain hj) (hd.isPlain hk) hj hk h hno
  exact hasks.handle_eq hasks' he hids

/-- A call for the eligibility of products that are named by texts. -/
def eligibilityOf (user : Value) (receipt : List UInt8) (products : List Text) : Call :=
  .getIntroEligibility user receipt (.list (products.map .text))

variable {products : List Text}

theorem namesProducts_eligibilityOf (user : Value) (receipt : List UInt8)
    (h : ∀ p ∈ products, p.IsClean) :
    (eligibilityOf user receipt products).NamesProducts := by
  rintro items hi item hitem
  obtain rfl := Except.ok.inj hi
  obtain ⟨p, hp, rfl⟩ := List.mem_map.mp hitem
  exact ⟨p, rfl, h p hp⟩

/-- What a call for the eligibility of products is admitted to. -/
inductive IsAdmittedTo (user : Value) (receipt : List UInt8) (products : List Text) :
    Admission → Prop where
  | unknown (h : products = [] ∨ receipt = []) : IsAdmittedTo user receipt products
    (.settled (.ok (.eligibilities (Eligibility.table (fun _ => .unknown) products))))
  | missingUser (hp : products ≠ []) (hr : receipt ≠ []) (hu : ¬user.IsUserId) :
    IsAdmittedTo user receipt products
      (.settled (.error (.client
        (missingUserOf (Eligibility.table (fun _ => .unknown) products)))))
  | request {e : Text} (he : Path.escapeUserId? user = some e) (key : Text) :
    IsAdmittedTo user receipt products
      (.dispatch ⟨.getIntroEligibility e (.text (RequestKey.fetchToken receipt))
        (products.map .text), key⟩)

theorem IsAdmittedTo.ne_raised {a : Admission} (h : IsAdmittedTo user receipt products a)
    (fault : Fault) : a ≠ .raised fault := by
  rintro rfl
  cases h

/-- What identifies a request for eligibilities is text throughout, and can be written. -/
theorem exists_isCanonical_identity {c : Call} {e token : Text}
    (h : Asks c (.getIntroEligibility e (.text token) (products.map .text))) (hc : c.IsPlain) :
    ∃ v, (Operation.getIntroEligibility e (.text token) (products.map .text)).identity? = .ok v ∧
      v.IsCanonical := by
  have hproducts : (Value.list (products.map .text)).isWritable = true :=
    Value.isWritable_list_iff.mpr (List.forall_mem_map.mpr fun _ _ => rfl)
  obtain ⟨v, hv, hplain⟩ := h.exists_identity hc
  refine ⟨v, hv, hplain.isCanonical ?_⟩
  obtain rfl := Except.ok.inj hv
  refine Value.isWritable_map_iff.mpr ?_
  simpa using ⟨⟨rfl, rfl⟩, rfl, hproducts⟩

theorem isAdmittedTo_admission (user : Value) (receipt : List UInt8)
    (h : ∀ p ∈ products, p.IsClean) :
    IsAdmittedTo user receipt products (eligibilityOf user receipt products).admission := by
  have hlist : (eligibilityOf user receipt products).productList? = some (products.map .text) := rfl
  have hunknown : unknownProducts (products.map .text) =
      Eligibility.table (fun _ => .unknown) products := Eligibility.ofProducts_text _ _
  have hkeys : (products.map Value.text).find? (fun p => !p.isKey) = none := by
    simp [Value.isKey, Value.isSignaling]
  rw [eligibilityOf, admission_of_productList? hlist]
  rcases introEligibility_cases user receipt (products.map .text) with ⟨hi, hadmission⟩ |
    ⟨hi, hno⟩ | ⟨e, hi, hr, he⟩
  · obtain rfl := List.map_eq_nil_iff.mp hi
    rw [hadmission]
    exact .unknown (.inl rfl)
  · rw [introEligibility_of_no_request hi hno, hkeys, hunknown]
    by_cases hr : receipt = []
    · rw [hr]
      exact .unknown (.inr rfl)
    · have hempty : receipt.isEmpty = false := by simpa using hr
      simp only [hempty]
      exact .missingUser (mt List.map_eq_nil_iff.mpr hi) hr (hno.resolve_left hr)
  · have hplain : (eligibilityOf user receipt products).IsPlain :=
      ⟨(Path.escapeUserId?_isSome_iff.mp ⟨e, he⟩).isIdentifier,
        namesProducts_eligibilityOf user receipt h⟩
    obtain ⟨v, hv, hcanonical⟩ :=
      exists_isCanonical_identity (Asks.getIntroEligibility he rfl receipt) hplain
    rw [introEligibility_of_request hi hr he, request_eq hv hcanonical]
    exact .request he _

end Call

namespace Operation

/-- A request for eligibilities always has a body. -/
theorem exists_prepare_eq {o : Operation} (hf : o.family = .introEligibility)
    (headers : List (Text × Text)) : ∃ s, o.exchange.prepare headers = .ok s := by
  cases o with
  | getIntroEligibility => exact ⟨_, rfl⟩
  | _ => cases hf

/-! ## Products that are written alike -/

variable {ps qs : List Value} {escaped : Text} {fetchToken : Value}

theorem write?_identity_congr (h : Json.write? Json.compact (.list ps) =
      Json.write? Json.compact (.list qs)) (fetchToken : Value) :
    Json.write? Json.compact
        (.record [("fetch_token", fetchToken), ("product_identifiers", .list ps)]) =
      Json.write? Json.compact
        (.record [("fetch_token", fetchToken), ("product_identifiers", .list qs)]) := by
  simp only [Value.record, List.map_cons, List.map_nil]
  rw [Json.write?, Json.write?]
  simp only [Json.members, h]

/-- The key only goes by the text of the products. -/
theorem key?_congr (h : Json.write? Json.compact (.list ps) =
      Json.write? Json.compact (.list qs)) :
    (getIntroEligibility escaped fetchToken ps).key? =
      (getIntroEligibility escaped fetchToken qs).key? := by
  have hdigest := write?_identity_congr h fetchToken
  simp only [key?, RequestKey.introEligibility, RequestKey.post, RequestKey.make,
    RequestKey.digest?, hdigest]
  rfl

/-- Operations of one text do not collide, for they have one payload. -/
theorem not_collides_of_write? (h : Json.write? Json.compact (.list ps) =
      Json.write? Json.compact (.list qs)) :
    ¬(getIntroEligibility escaped fetchToken ps).Collides
      (.getIntroEligibility escaped fetchToken qs) := by
  rintro ⟨v, w, hv, hw, hne, -⟩
  obtain rfl := Except.ok.inj hv
  obtain rfl := Except.ok.inj hw
  apply hne
  rw [RequestKey.payload, RequestKey.payload, Json.textOf, Json.textOf, write?_identity_congr h]

end Operation

end SubscriptionClient
