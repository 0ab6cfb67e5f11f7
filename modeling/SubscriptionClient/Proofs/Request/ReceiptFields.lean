import SubscriptionClient.Proofs.Value.SameJson
import SubscriptionClient.Request.Operation

/-!
# The fields of a receipt

The body of a receipt as a list of named fields of which each may be left out. Two such bodies are
the same JSON when they are so field by field.
-/

namespace SubscriptionClient

open Value

namespace Product

/-- The fields that are there. -/
def given (fields : List (String × Option Value)) : List (String × Value) :=
  fields.filterMap fun f => f.2.map fun v => (f.1, v)

/-- A value that is neither missing nor empty. -/
def filled? (v : Value) : Option Value := if v.toBool then some v else none

def names : List String :=
  ["product_id", "price", "currency", "payment_mode", "normal_duration", "trial_duration",
    "intro_duration", "subscription_group_id", "offers"]

/-- All the fields that a product may have in a receipt. -/
def allFields (p : Product) (price : Double) (offers : List Value) :
    List (String × Option Value) :=
  [("product_id", some p.identifier), ("price", some (.float price))] ++
    [("currency", filled? p.currencyCode)] ++
    [("payment_mode", if p.paymentMode = .none then none else some (.int p.paymentMode.code))] ++
    [("normal_duration", filled? p.normalDuration)] ++
    [("trial_duration", if p.introKind = .freeTrial then filled? p.introDuration else none),
      ("intro_duration", if p.introKind = .freeTrial then none else filled? p.introDuration)] ++
    [("subscription_group_id", filled? p.subscriptionGroup)] ++
    [("offers", if offers.isEmpty then none else some (.list offers))]

theorem given_append (fs gs : List (String × Option Value)) :
    given (fs ++ gs) = given fs ++ given gs :=
  List.filterMap_append

theorem given_filled? (name : String) (v : Value) :
    given [(name, filled? v)] = optionalField name v := by
  unfold filled? optionalField
  split <;> rfl

theorem given_of_not (name : String) (v : Value) (c : Prop) [Decidable c] :
    given [(name, if c then none else some v)] = if c then [] else [(name, v)] := by
  split <;> rfl

theorem given_duration (v : Value) (c : Prop) [Decidable c] :
    given [("trial_duration", if c then filled? v else none),
      ("intro_duration", if c then none else filled? v)] =
      optionalField (if c then "trial_duration" else "intro_duration") v := by
  unfold filled? optionalField
  split <;> split <;> rfl

theorem given_allFields (p : Product) (price : Double) (offers : List Value)
    (hp : p.price.toDouble? = some price) (ho : p.discounts.mapM Discount.toValue? = some offers) :
    p.fields? = some (given (p.allFields price offers)) := by
  rw [fields?, hp, ho, allFields]
  simp only [given_append, given_filled?, given_of_not, given_duration]
  rfl

/-- All the fields that the product of a receipt may have there. -/
def fieldsIn? : Option Product → Option (List (String × Option Value))
  | none => some (names.map fun n => (n, none))
  | some p => do
    let price ← p.price.toDouble?
    let offers ← p.discounts.mapM Discount.toValue?
    return p.allFields price offers

theorem fieldsIn?_some_iff {p : Product} {fields : List (String × Option Value)} :
    fieldsIn? (some p) = some fields ↔ ∃ price, p.price.toDouble? = some price ∧
      ∃ offers, p.discounts.mapM Discount.toValue? = some offers ∧
        p.allFields price offers = fields := by
  simp only [fieldsIn?, Option.bind_eq_bind, Option.bind_eq_some_iff, Option.pure_def,
    Option.some.injEq]

theorem map_fst_of_fieldsIn? {p : Option Product} {fields : List (String × Option Value)}
    (h : fieldsIn? p = some fields) : fields.map Prod.fst = names := by
  cases p with
  | none =>
    obtain rfl := Option.some.inj h
    rfl
  | some p =>
    obtain ⟨price, -, offers, -, rfl⟩ := fieldsIn?_some_iff.mp h
    rfl

end Product

namespace Receipt

variable {r s : Receipt} {fields fields' : List (String × Option Value)}

def names : List String :=
  ["fetch_token", "app_user_id", "is_restore", "observer_mode"] ++ Product.names ++
    ["attributes", "presented_offering_identifier"]

def identityNames : List String :=
  ["app_user_id", "is_restore", "fetch_token", "product_info", "presented_offering_identifier",
    "observer_mode", "attributes"]

/-- All the fields that a receipt may have, given those of its product. -/
def allFields (r : Receipt) (product : List (String × Option Value)) :
    List (String × Option Value) :=
  [("fetch_token", some r.fetchToken), ("app_user_id", some r.appUserId),
      ("is_restore", some r.isRestore), ("observer_mode", some r.observerMode)] ++ product ++
    [("attributes", r.attributes.map Attributes.toValue)] ++
    [("presented_offering_identifier", r.presentedOfferingIdentifier.nonNull?)]

theorem present_eq (fields : List (String × Option Value)) :
    .map (present fields) = record (Product.given fields) := by
  rw [record, Product.given, List.map_filterMap, present]
  simp only [Option.map_map]
  rfl

theorem given_nonNull? (name : String) (v : Value) :
    Product.given [(name, v.nonNull?)] = if v.isNull then [] else [(name, v)] := by
  cases v <;> rfl

theorem body_eq (h : Product.fieldsIn? r.product = some fields) :
    Operation.receiptBody r = .ok (.map (present (r.allFields fields))) := by
  rw [present_eq, allFields, Product.given_append, Product.given_append, Product.given_append,
    given_nonNull?, Operation.receiptBody]
  cases hp : r.product with
  | none =>
    rw [hp] at h
    obtain rfl := Option.some.inj h
    cases r.attributes <;> rfl
  | some p =>
    rw [hp] at h
    obtain ⟨price, hprice, offers, hoffers, rfl⟩ := Product.fieldsIn?_some_iff.mp h
    simp only [Product.given_allFields p price offers hprice hoffers]
    cases r.attributes <;> rfl

theorem body_eq_error (h : Product.fieldsIn? r.product = none) :
    Operation.receiptBody r = .error .signalingNaN := by
  cases hp : r.product with
  | none =>
    rw [hp] at h
    cases h
  | some p =>
    have hfields : p.fields? = none := by
      rw [hp, Product.fieldsIn?] at h
      rw [Product.fields?]
      cases hprice : p.price.toDouble? with
      | none => rfl
      | some price =>
        cases hoffers : p.discounts.mapM Discount.toValue? with
        | none => rfl
        | some offers =>
          rw [hprice, hoffers] at h
          cases h
    simp only [Operation.receiptBody, hp, hfields]
    rfl

/-- Whether two receipts agree in all but the product. -/
structure SameRest (r s : Receipt) : Prop where
  fetchToken : SameJson r.fetchToken s.fetchToken
  appUserId : SameJson r.appUserId s.appUserId
  isRestore : SameJson r.isRestore s.isRestore
  observerMode : SameJson r.observerMode s.observerMode
  offering : SameJson r.presentedOfferingIdentifier s.presentedOfferingIdentifier
  attributes : Option.Rel SameJson (r.attributes.map Attributes.toValue)
    (s.attributes.map Attributes.toValue)

theorem forall₂_append_iff {α : Type} {R : α → α → Prop} {as bs as' bs' : List α}
    (h : as.length = as'.length) :
    List.Forall₂ R (as ++ bs) (as' ++ bs') ↔ List.Forall₂ R as as' ∧ List.Forall₂ R bs bs' := by
  induction as generalizing as' with
  | nil =>
    obtain rfl : as' = [] := List.length_eq_zero_iff.mp h.symm
    simp
  | cons a as ih =>
    cases as' with
    | nil => cases h
    | cons a' as' => simp [ih (Nat.succ.inj h), and_assoc]

/-- The bodies of two receipts are the same when the products are so field by field, and the rest
is. -/
theorem sameJson_body_iff (hr : Product.fieldsIn? r.product = some fields)
    (hs : Product.fieldsIn? s.product = some fields') :
    SameJson (.map (present (r.allFields fields))) (.map (present (s.allFields fields'))) ↔
      SameRest r s ∧ List.Forall₂ (fun f g => Option.Rel SameJson f.2 g.2) fields fields' := by
  have hnames := Product.map_fst_of_fieldsIn? hr
  have hnames' := Product.map_fst_of_fieldsIn? hs
  have hlength : fields.length = fields'.length := by
    have h := congrArg List.length (hnames.trans hnames'.symm)
    rwa [List.length_map, List.length_map] at h
  rw [sameJson_present_iff names (by decide) (by simp [allFields, hnames, names])
    (by simp [allFields, hnames', names])]
  simp only [allFields, List.append_assoc, List.cons_append, List.nil_append, List.forall₂_cons,
    forall₂_append_iff hlength, Option.rel_some_some, rel_nonNull?_iff, List.Forall₂.nil, and_true]
  constructor
  · rintro ⟨hf, hu, hr, ho, hp, ha, hi⟩
    exact ⟨⟨hf, hu, hr, ho, hi, ha⟩, hp⟩
  · rintro ⟨⟨hf, hu, hr, ho, hi, ha⟩, hp⟩
    exact ⟨hf, hu, hr, ho, hp, ha, hi⟩

theorem sameJson_identity_iff {u w : Value} :
    SameJson (RequestKey.receiptIdentity r u) (RequestKey.receiptIdentity s w) ↔
      SameRest r s ∧ SameJson u w := by
  have hattributes (r : Receipt) : (Value.ofOption Attributes.toValue r.attributes).nonNull? =
      r.attributes.map Attributes.toValue := by
    cases r.attributes <;> rfl
  rw [RequestKey.receiptIdentity, RequestKey.receiptIdentity,
    sameJson_record_iff identityNames (by decide) rfl rfl]
  have hsame : SameJson (.ofOption Attributes.toValue r.attributes)
      (.ofOption Attributes.toValue s.attributes) ↔
        Option.Rel SameJson (r.attributes.map Attributes.toValue)
          (s.attributes.map Attributes.toValue) := by
    rw [← rel_nonNull?_iff, hattributes, hattributes]
  simp only [List.forall₂_cons, hsame, List.Forall₂.nil, and_true]
  constructor
  · rintro ⟨hu, hr, hf, hp, hi, ho, ha⟩
    exact ⟨⟨hf, hu, hr, ho, hi, ha⟩, hp⟩
  · rintro ⟨⟨hf, hu, hr, ho, hi, ha⟩, hp⟩
    exact ⟨hu, hr, hf, hp, hi, ho, ha⟩

end Receipt

end SubscriptionClient
