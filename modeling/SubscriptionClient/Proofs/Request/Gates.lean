import SubscriptionClient.Proofs.Request.PlainCalls
import SubscriptionClient.Proofs.Request.UserSegments

/-!
# The gate before every request

Before a call comes to its request it may fail a precondition, which settles it at once, or raise a
fault. Both are told here apart from the order in which the calls check their arguments, and every
other call asks for a job.
-/

namespace SubscriptionClient.Call

open Admission

/-- The identifier of a user that a call puts into a path or checks. -/
def checkedUser? : Call → Option Value
  | getCustomerInfo user | getOfferings user | createAlias user _
  | postReceiptData _ user _ _ _ _ _ | postOfferForSigning _ _ _ _ user
  | postAttributionData _ _ user | postSubscriberAttributes (some (_ :: _)) user => some user
  | _ => none

/-- The products that a call names. A text is no list of products. -/
def productList? : Call → Option (List Value)
  | getIntroEligibility _ _ (.text _) => none
  | getIntroEligibility _ _ products => products.items?.toOption
  | _ => none

def unknownProducts (items : List Value) : List (Value × Eligibility) :=
  Eligibility.ofProducts (fun _ => .unknown) items

/-- A call fails a precondition, and what it is answered then. For eligibilities the products come
first, then the receipt, then the user; and no attributes come before the user. -/
inductive IsRejected : Call → Attempt Outcome → Prop where
  | user {c : Call} {user : Value} (hc : c.checkedUser? = some user) (hu : ¬user.IsUserId) :
    IsRejected c (.error (.client .missingAppUserId))
  | logIn {current new : Value} (h : current.toBool = false ∨ new.toBool = false) :
    IsRejected (.logIn current new) (.error (.client .missingAppUserId))
  | noAttributes {attributes : Option Attributes} (h : attributes.getD [] = []) (user : Value) :
    IsRejected (.postSubscriberAttributes attributes user)
      (.error (.client .emptySubscriberAttributes))
  | noProducts {user products : Value} {receipt : List UInt8}
    (h : (getIntroEligibility user receipt products).productList? = some []) :
    IsRejected (.getIntroEligibility user receipt products) (.ok (.eligibilities []))
  | noReceipt {user products : Value} {items : List Value}
    (h : (getIntroEligibility user [] products).productList? = some items) (hi : items ≠ []) :
    IsRejected (.getIntroEligibility user [] products)
      (.ok (.eligibilities (unknownProducts items)))
  | noUser {user products : Value} {receipt : List UInt8} {items : List Value}
    (h : (getIntroEligibility user receipt products).productList? = some items) (hi : items ≠ [])
    (hr : receipt ≠ []) (hu : ¬user.IsUserId) :
    IsRejected (.getIntroEligibility user receipt products)
      (.error (.client (missingUserOf (unknownProducts items))))

/-- The faults that calls raise. -/
inductive Raises : Call → Fault → Prop where
  | unfit (e : Endpoint) (m : Misuse) : Raises (.unfit e m) (.misuse m)
  | productText (user : Value) (receipt : List UInt8) (t : Text) :
    Raises (.getIntroEligibility user receipt (.text t)) (.misuse .productText)
  | noList {products : Value} {m : Misuse} (h : products.items? = .error m) (user : Value)
    (receipt : List UInt8) :
    Raises (.getIntroEligibility user receipt products) (.misuse m)
  /-- A product that cannot be a key, where the answer would have it as one and takes no request. -/
  | unusableProduct {user products p : Value} {receipt : List UInt8} {items : List Value}
    (h : (getIntroEligibility user receipt products).productList? = some items)
    (hp : items.find? (fun p => !p.isKey) = some p) (hr : receipt = [] ∨ ¬user.IsUserId) :
    Raises (.getIntroEligibility user receipt products) (.misuse (.unusableKey p))
  | noMembers {data user : Value} {m : Misuse} (h : data.toMembers? = .error m)
    (hu : user.IsUserId) (network : AttributionNetwork) :
    Raises (.postAttributionData data network user) (.misuse m)
  /-- Nothing keeps the call from its request, but the key of the request cannot be computed. -/
  | noKey {c : Call} {o : Operation} {fault : Fault} (hn : ∀ outcome, ¬c.IsRejected outcome)
    (ht : ∀ user receipt t, c ≠ .getIntroEligibility user receipt (.text t)) (ho : Asks c o)
    (hk : o.key? = .error fault) : Raises c fault

/-- Whether the products that a call names can be keys. -/
def HasProductKeys (c : Call) : Prop :=
  ∀ items, c.productList? = some items → ∀ p ∈ items, p.isKey = true

variable {c : Call} {user products : Value} {receipt : List UInt8} {items : List Value}
  {outcome : Attempt Outcome} {fault : Fault} {next : Text → Admission}

/-! ## Users -/

theorem escapeUserId?_eq_none (h : ¬user.IsUserId) : Path.escapeUserId? user = none :=
  Option.eq_none_iff_forall_ne_some.mpr fun e he => h (Path.escapeUserId?_isSome_iff.mp ⟨e, he⟩)

theorem withUser_of_not_isUserId (h : ¬user.IsUserId) (next : Text → Admission) :
    withUser user next = .settled (.error (.client .missingAppUserId)) := by
  rw [withUser, escapeUserId?_eq_none h]

theorem withUser_cases (user : Value) (next : Text → Admission) :
    (¬user.IsUserId ∧ withUser user next = .settled (.error (.client .missingAppUserId))) ∨
      ∃ e, Path.escapeUserId? user = some e ∧ withUser user next = next e := by
  by_cases h : user.IsUserId
  · obtain ⟨e, he⟩ := Path.escapeUserId?_isSome_iff.mpr h
    exact .inr ⟨e, he, by rw [withUser, he]⟩
  · exact .inl ⟨h, withUser_of_not_isUserId h next⟩

/-! ## Eligibilities -/

theorem productList?_eq_some_iff : (getIntroEligibility user receipt products).productList? =
    some items ↔ (∀ t, products ≠ .text t) ∧ products.items? = .ok items := by
  cases products <;> simp [productList?, Value.items?, Except.toOption]

theorem admission_of_productList?
    (h : (getIntroEligibility user receipt products).productList? = some items) :
    (getIntroEligibility user receipt products).admission =
      introEligibility user receipt items := by
  obtain ⟨ht, hi⟩ := productList?_eq_some_iff.mp h
  unfold admission
  split <;> simp_all

/-- Without a request every product is unknown, and each has to be a key of the answer. -/
theorem introEligibility_of_no_request (hi : items ≠ []) (h : receipt = [] ∨ ¬user.IsUserId) :
    introEligibility user receipt items = match items.find? fun p => !p.isKey with
      | some p => .raised (.misuse (.unusableKey p))
      | none => if receipt.isEmpty then .settled (.ok (.eligibilities (unknownProducts items)))
        else .settled (.error (.client (missingUserOf (unknownProducts items)))) := by
  have hunknown : Response.unknownEligibilities items = match items.find? fun p => !p.isKey with
      | some p => .error (.misuse (.unusableKey p))
      | none => .ok (unknownProducts items) := by
    unfold Response.unknownEligibilities Response.checkKeys
    cases items.find? fun p => !p.isKey <;> rfl
  unfold introEligibility
  split
  · exact (hi rfl).elim
  · split
    · rename_i he
      rcases h with h | h
      · cases h
      · rw [escapeUserId?_eq_none h] at he
        cases he
    · rw [hunknown]
      cases items.find? fun p => !p.isKey <;> rfl

theorem introEligibility_of_request {e : Text} (hi : items ≠ []) (hr : receipt ≠ [])
    (he : Path.escapeUserId? user = some e) : introEligibility user receipt items =
      request (.getIntroEligibility e (.text (RequestKey.fetchToken receipt)) items) := by
  obtain ⟨item, rest, rfl⟩ := List.exists_cons_of_ne_nil hi
  obtain ⟨byte, bytes, rfl⟩ := List.exists_cons_of_ne_nil hr
  simp only [introEligibility, he]

theorem introEligibility_cases (user : Value) (receipt : List UInt8) (items : List Value) :
    (items = [] ∧ introEligibility user receipt items = .settled (.ok (.eligibilities []))) ∨
      (items ≠ [] ∧ (receipt = [] ∨ ¬user.IsUserId)) ∨
      ∃ e, items ≠ [] ∧ receipt ≠ [] ∧ Path.escapeUserId? user = some e := by
  by_cases hi : items = []
  · exact .inl ⟨hi, by rw [hi, introEligibility]⟩
  · by_cases hr : receipt = []
    · exact .inr (.inl ⟨hi, .inl hr⟩)
    · by_cases hu : user.IsUserId
      · obtain ⟨e, he⟩ := Path.escapeUserId?_isSome_iff.mpr hu
        exact .inr (.inr ⟨e, hi, hr, he⟩)
      · exact .inr (.inl ⟨hi, .inr hu⟩)

/-! ## Products that cannot be keys -/

theorem productList?_eq_none_of_checkedUser? (h : c.checkedUser? = some user) :
    c.productList? = none := by
  unfold checkedUser? at h
  split at h <;> first
    | rfl
    | cases h

theorem hasProductKeys_of_none (h : c.productList? = none) : c.HasProductKeys := by
  intro items hi
  rw [h] at hi
  cases hi

theorem hasProductKeys_of_ne
    (h : ∀ user receipt products, c ≠ .getIntroEligibility user receipt products) :
    c.HasProductKeys := by
  cases c with
  | getIntroEligibility => exact (h _ _ _ rfl).elim
  | _ => exact hasProductKeys_of_none rfl

theorem exists_raises_of_isRejected (h : c.IsRejected outcome) (hk : ¬c.HasProductKeys) :
    ∃ p, p.isKey = false ∧ c.Raises (.misuse (.unusableKey p)) := by
  -- among the products there is a first one that cannot be a key
  have hfirst {c : Call} {items : List Value} (hc : c.productList? = some items)
      (hk : ¬c.HasProductKeys) : ∃ p, items.find? (fun p => !p.isKey) = some p := by
    refine Option.ne_none_iff_exists'.mp fun hnone => hk fun items' hi p hp => ?_
    obtain rfl := Option.some.inj (hc.symm.trans hi)
    simpa using List.find?_eq_none.mp hnone p hp
  cases h with
  | user hc hu => exact (hk (hasProductKeys_of_none (productList?_eq_none_of_checkedUser? hc))).elim
  | logIn | noAttributes => exact (hk (hasProductKeys_of_none rfl)).elim
  | noProducts h =>
    obtain ⟨p, hp⟩ := hfirst h hk
    cases hp
  | noReceipt h hi =>
    obtain ⟨p, hp⟩ := hfirst h hk
    exact ⟨p, by simpa using List.find?_some hp, .unusableProduct h hp (.inl rfl)⟩
  | noUser h hi hr hu =>
    obtain ⟨p, hp⟩ := hfirst h hk
    exact ⟨p, by simpa using List.find?_some hp, .unusableProduct h hp (.inr hu)⟩

/-! ## What calls are admitted to -/

theorem admission_of_isRejected (h : c.IsRejected outcome) (hk : c.HasProductKeys) :
    c.admission = .settled outcome := by
  have hfind {items : List Value} (hc : c.productList? = some items) :
      items.find? (fun p => !p.isKey) = none :=
    List.find?_eq_none.mpr fun p hp => by simp [hk items hc p hp]
  cases h with
  | @user _ user hc hu =>
    have hwith := withUser_of_not_isUserId hu
    unfold checkedUser? at hc
    split at hc <;> first
      | (obtain rfl := Option.some.inj hc; exact hwith _)
      | cases hc
  | logIn h =>
    rw [admission, if_neg]
    rcases h with h | h <;> simp [h]
  | @noAttributes attributes h user =>
    cases attributes with
    | none => rfl
    | some attributes =>
      obtain rfl : attributes = [] := h
      rfl
  | noProducts h => rw [admission_of_productList? h, introEligibility]
  | noReceipt h hi =>
    rw [admission_of_productList? h, introEligibility_of_no_request hi (.inl rfl), hfind h]
    rfl
  | noUser h hi hr hu =>
    rw [admission_of_productList? h, introEligibility_of_no_request hi (.inr hu), hfind h]
    simp [List.isEmpty_iff, hr]

theorem admission_of_raises (h : c.Raises fault) : c.admission = .raised fault := by
  cases h with
  | unfit => rfl
  | productText => rfl
  | @noList products m h user receipt =>
    unfold admission
    split <;> simp_all [Value.items?]
  | unusableProduct h hp hr =>
    rw [admission_of_productList? h, introEligibility_of_no_request _ hr, hp]
    rintro rfl
    cases hp
  | noMembers h hu network =>
    obtain ⟨e, he⟩ := Path.escapeUserId?_isSome_iff.mpr hu
    simp only [admission, withUser, he, h]
  | @noKey c o fault hn ht ho hk =>
    have hrequest : request o = .raised fault := by rw [request, hk]
    cases ho with
    | logIn current new =>
      have htrue : (current.toBool && new.toBool) = true := by
        by_contra hfalse
        exact hn _ (.logIn (Bool.and_eq_false_iff.mp (Bool.eq_false_iff.mpr hfalse)))
      rw [admission, if_pos htrue, hrequest]
    | @getIntroEligibility user products e items he hi receipt =>
      have hlist : (Call.getIntroEligibility user receipt products).productList? = some items :=
        productList?_eq_some_iff.mpr ⟨fun t hproducts => ht user receipt t (by rw [hproducts]), hi⟩
      have hitems : items ≠ [] := by
        rintro rfl
        exact hn _ (.noProducts hlist)
      have hreceipt : receipt ≠ [] := by
        rintro rfl
        exact hn _ (.noReceipt hlist hitems)
      rw [admission_of_productList? hlist, introEligibility_of_request hitems hreceipt he, hrequest]
    | @postSubscriberAttributes user e he attributes =>
      cases attributes with
      | nil => exact (hn _ (.noAttributes rfl user)).elim
      | cons => simp only [admission, withUser, he, hrequest]
    | postAttributionData he hm network =>
      simp only [admission, withUser, he, hm, hrequest]
    | _ he => simp only [admission, withUser, he, hrequest]

/-- What an admission that asks for nothing says of its call. -/
def IsToldBy (c : Call) : Admission → Prop
  | .raised fault => c.Raises fault
  | .settled outcome => c.IsRejected outcome
  | .dispatch _ => True

theorem isToldBy_request {o : Operation} (hc : c.admission = request o)
    (h : ∀ user receipt products, c ≠ .getIntroEligibility user receipt products)
    (ho : Asks c o) : c.IsToldBy (request o) := by
  unfold request at hc ⊢
  split
  · trivial
  · rename_i fault hfault
    refine .noKey (fun outcome hrejected => ?_) (fun _ _ _ => h _ _ _) ho hfault
    rw [hfault, admission_of_isRejected hrejected (hasProductKeys_of_ne h)] at hc
    cases hc

theorem isToldBy_withUser (hc : c.admission = withUser user next)
    (hchecked : c.checkedUser? = some user)
    (hn : ∀ e, Path.escapeUserId? user = some e → c.admission = next e → c.IsToldBy (next e)) :
    c.IsToldBy (withUser user next) := by
  rcases withUser_cases user next with ⟨hu, hw⟩ | ⟨e, he, hw⟩
  · rw [hw]
    exact .user hchecked hu
  · rw [hw]
    exact hn e he (hc.trans hw)

theorem isToldBy_introEligibility
    (h : (getIntroEligibility user receipt products).productList? = some items) :
    (getIntroEligibility user receipt products).IsToldBy
      (introEligibility user receipt items) := by
  rcases introEligibility_cases user receipt items with ⟨rfl, hadmission⟩ | ⟨hi, hno⟩ |
    ⟨e, hi, hr, he⟩
  · rw [hadmission]
    exact .noProducts h
  · rw [introEligibility_of_no_request hi hno]
    cases hfind : items.find? fun p => !p.isKey with
    | some p => exact .unusableProduct h hfind hno
    | none =>
      cases receipt with
      | nil => exact .noReceipt h hi
      | cons byte bytes => exact .noUser h hi (List.cons_ne_nil _ _) (hno.resolve_left nofun)
  · have hadmission := introEligibility_of_request hi hr he
    obtain ⟨ht, hitems⟩ := productList?_eq_some_iff.mp h
    rw [hadmission]
    unfold request
    split
    · trivial
    · rename_i fault hfault
      refine .noKey (fun outcome hrejected => ?_) (by simp [ht])
        (.getIntroEligibility he hitems receipt) hfault
      cases hrejected with
      | user hc => cases hc
      | noProducts h' =>
        rw [h] at h'
        exact hi (Option.some.inj h')
      | noReceipt => exact hr rfl
      | noUser _ _ _ hu => exact hu (Path.escapeUserId?_isSome_iff.mp ⟨e, he⟩)

theorem isToldBy_admission (c : Call) : c.IsToldBy c.admission := by
  cases c with
  | getCustomerInfo user =>
    exact isToldBy_withUser rfl rfl fun e he hc =>
      isToldBy_request hc (by simp) (.getCustomerInfo he)
  | postReceiptData receipt user isRestore observerMode product offering attributes =>
    exact isToldBy_withUser rfl rfl fun e he hc => isToldBy_request hc (by simp)
      (.postReceiptData he receipt isRestore observerMode product offering attributes)
  | logIn current new =>
    by_cases h : (current.toBool && new.toBool) = true
    · have hc : (Call.logIn current new).admission = request (.logIn current new) := by
        rw [admission, if_pos h]
      rw [hc]
      exact isToldBy_request hc (by simp) (.logIn current new)
    · have hc : (Call.logIn current new).admission =
          .settled (.error (.client .missingAppUserId)) := by
        rw [admission, if_neg h]
      rw [hc]
      exact .logIn (Bool.and_eq_false_iff.mp (Bool.eq_false_iff.mpr h))
  | createAlias user new =>
    exact isToldBy_withUser rfl rfl fun e he hc =>
      isToldBy_request hc (by simp) (.createAlias he new)
  | getOfferings user =>
    exact isToldBy_withUser rfl rfl fun e he hc =>
      isToldBy_request hc (by simp) (.getOfferings he)
  | postOfferForSigning offer product group receipt user =>
    exact isToldBy_withUser rfl rfl fun e he hc => isToldBy_request hc (by simp)
      (.postOfferForSigning he offer product group receipt)
  | getIntroEligibility user receipt products =>
    cases hi : products.items? with
    | error m =>
      have hadmission := admission_of_raises (.noList hi user receipt)
      rw [hadmission]
      exact .noList hi user receipt
    | ok items =>
      by_cases ht : ∃ t, products = .text t
      · obtain ⟨t, rfl⟩ := ht
        exact .productText user receipt t
      · have hlist : (Call.getIntroEligibility user receipt products).productList? = some items :=
          productList?_eq_some_iff.mpr ⟨fun t h => ht ⟨t, h⟩, hi⟩
        rw [admission_of_productList? hlist]
        exact isToldBy_introEligibility hlist
  | postSubscriberAttributes attributes user =>
    rcases attributes with - | - | ⟨a, as⟩
    · exact .noAttributes rfl user
    · exact .noAttributes rfl user
    · exact isToldBy_withUser rfl rfl fun e he hc => isToldBy_request hc (by simp)
        (.postSubscriberAttributes he (a :: as))
  | postAttributionData data network user =>
    refine isToldBy_withUser rfl rfl fun e he hc => ?_
    cases hm : data.toMembers? with
    | ok members =>
      rw [hm] at hc
      exact isToldBy_request hc (by simp) (.postAttributionData he hm network)
    | error m => exact .noMembers hm (Path.escapeUserId?_isSome_iff.mp ⟨e, he⟩) network
  | unfit e m => exact .unfit e m

/-- A call that asks for a job fails no precondition and raises nothing. -/
theorem passes_of_dispatch {job : Job} (h : c.admission = .dispatch job) :
    (∀ outcome, ¬c.IsRejected outcome) ∧ ∀ fault, ¬c.Raises fault := by
  have hraises (fault : Fault) (hf : c.Raises fault) : False := by
    rw [admission_of_raises hf] at h
    cases h
  refine ⟨fun outcome hr => ?_, hraises⟩
  by_cases hk : c.HasProductKeys
  · rw [admission_of_isRejected hr hk] at h
    cases h
  · obtain ⟨p, -, hp⟩ := exists_raises_of_isRejected hr hk
    exact hraises _ hp

end SubscriptionClient.Call
