import SubscriptionClient.Proofs.Response.Outcomes
import SubscriptionClient.Proofs.Schema.Readings
import SubscriptionClient.Response.Offerings

/-!
# Nothing is lost on the way

Customer info and offerings have what their bodies have: one value for each member of a section or
item of a list, in the order of the body, with the texts and dates that stand there. What a body
says is told here by its members alone, without the schemas that it is decoded by.
-/

namespace SubscriptionClient

/-! ## What stands in a body -/

namespace Body

/-- Whether a value is read as a date. ISO text is read as the date that it is the text of, an
integer as the instant that it counts to. -/
def IsDate (v : Value) (t : DateTime) : Prop := Scalar.dateTime v = .ok t

def IsText (v : Value) (t : Text) : Prop := v = .text t

/-- The members of the mapping under a name, or none where nothing has the name. -/
def HasSection (name : String) (es members : List (Value × Value)) : Prop :=
  IsHeld (fun v members => v = .map members) false [] (Value.member? name es) members

/-- The items of the list under a name, or none where nothing has the name. -/
def HasItems (name : String) (es : List (Value × Value)) (items : List Value) : Prop :=
  IsHeld (fun v items => v = .list items) false [] (Value.member? name es) items

/-- The date under a name in a mapping that may do without it. -/
def IsDatedBy (name : String) (v : Value) (t : Option DateTime) : Prop :=
  ∃ es, v = .map es ∧ IsOptionally IsDate (Value.member? name es) t

def itemsOf : Value → List Value
  | .list vs => vs
  | _ => []

/-- Single purchases, each with the product that its list stands under. -/
def purchases (members : List (Value × Value)) : List (Value × Value) :=
  members.flatMap fun e => (itemsOf e.2).map fun v => (e.1, v)

end Body

open Body

structure Transaction.IsOf (p : Value × Value) (t : Transaction) : Prop where
  product : IsText p.1 t.productIdentifier
  id : ∃ v, Value.member? "id" p.2.members = some v ∧ IsText v t.transactionIdentifier
  purchaseDate : ∃ v, Value.member? "purchase_date" p.2.members = some v ∧ IsDate v t.purchaseDate

structure Entitlement.IsOf (e : Value × Value) (x : Text × Entitlement) : Prop where
  key : IsText e.1 x.1
  identifier : x.2.identifier = x.1
  product : ∃ v, Value.member? "product_identifier" e.2.members = some v ∧
    IsText v x.2.productIdentifier
  purchaseDate : IsDatedBy "purchase_date" e.2 x.2.purchaseDate
  expiresDate : IsDatedBy "expires_date" e.2 x.2.expiresDate
  gracePeriodExpiresDate : IsDatedBy "grace_period_expires_date" e.2 x.2.gracePeriodExpiresDate

namespace CustomerInfo

structure IsOfSubscriber (es : List (Value × Value)) (c : CustomerInfo) : Prop where
  originalAppUserId : ∃ v, Value.member? "original_app_user_id" es = some v ∧
    IsText v c.originalAppUserId
  firstSeen : ∃ v, Value.member? "first_seen" es = some v ∧ IsDate v c.firstSeen
  originalApplicationVersion : IsOptionally IsText
    (Value.member? "original_application_version" es) c.originalApplicationVersion
  originalPurchaseDate : IsOptionally IsDate (Value.member? "original_purchase_date" es)
    c.originalPurchaseDate
  managementUrl : IsOptionally IsText (Value.member? "management_url" es) c.managementUrl
  entitlements : ∃ members, HasSection "entitlements" es members ∧
    List.Forall₂ Entitlement.IsOf members c.entitlements
  /-- Both mappings of dates have the keys of the section. -/
  subscriptions : ∃ members, HasSection "subscriptions" es members ∧
    List.Forall₂ (IsNamed (IsDatedBy "expires_date")) members c.expirationDates ∧
    List.Forall₂ (IsNamed (IsDatedBy "purchase_date")) members c.purchaseDates
  transactions : ∃ members, HasSection "non_subscriptions" es members ∧
    (∀ e ∈ members, ∃ vs, e.2 = .list vs) ∧
    List.Forall₂ Transaction.IsOf (purchases members) c.transactions

/-- Whether customer info has just what the body says. -/
structure IsOf (body : Value) (c : CustomerInfo) : Prop where
  raw : body = .map c.raw
  requestDate : ∃ v, Value.member? "request_date" c.raw = some v ∧ IsDate v c.requestDate
  subscriber : ∃ es, Value.member? "subscriber" c.raw = some (.map es) ∧ c.IsOfSubscriber es

end CustomerInfo

structure Package.IsOf (v : Value) (p : Package) : Prop where
  identifier : ∃ w, Value.member? "identifier" v.members = some w ∧ IsText w p.identifier
  product : ∃ w, Value.member? "platform_product_identifier" v.members = some w ∧
    IsText w p.platformProductIdentifier

structure Offering.IsOf (v : Value) (o : Offering) : Prop where
  identifier : ∃ w, Value.member? "identifier" v.members = some w ∧ IsText w o.identifier
  description : IsHeld IsText false [] (Value.member? "description" v.members) o.description
  packages : ∃ items, HasItems "packages" v.members items ∧
    List.Forall₂ Package.IsOf items o.packages

structure Offerings.IsOf (body : Value) (o : Offerings) : Prop where
  raw : body = .map o.raw
  currentOfferingId : IsOptionally IsText (Value.member? "current_offering_id" o.raw)
    o.currentOfferingId
  offerings : ∃ items, HasItems "offerings" o.raw items ∧
    List.Forall₂ Offering.IsOf items o.offerings

/-! ## Sections and lists -/

/-- What is read item by item is read from a list that stands there, or from no items. -/
theorem exists_of_isHeld {α β : Type} {reads : β → α → Prop} {wrap : List β → Value}
    {m : Option Value} {as : List α}
    (h : IsHeld (fun v as => ∃ bs, v = wrap bs ∧ List.Forall₂ reads bs as) false [] m as) :
    ∃ bs, IsHeld (fun v bs => v = wrap bs) false [] m bs ∧ List.Forall₂ reads bs as := by
  cases m with
  | none =>
    obtain ⟨-, rfl⟩ := h
    exact ⟨[], ⟨rfl, rfl⟩, .nil⟩
  | some v => exact h

section Reads

variable {s : Schema} {name : String} {es : List (Value × Value)}

theorem exists_section (x : List (Text × s.Denotes))
    (h : IsHeld s.mapping.Reads false [] (Value.member? name es) x) :
    ∃ members, HasSection name es members ∧ List.Forall₂ (IsNamed s.Reads) members x :=
  exists_of_isHeld h

theorem exists_items (x : List s.Denotes)
    (h : IsHeld s.list.Reads false [] (Value.member? name es) x) :
    ∃ items, HasItems name es items ∧ List.Forall₂ s.Reads items x :=
  exists_of_isHeld h

end Reads

/-! ## Customer info -/

theorem Entitlement.isOf_of_reads {e : Value × Value} {x : Text × Body.entitlement.Denotes}
    (h : IsNamed Body.entitlement.Reads e x) :
    Entitlement.IsOf e (x.1, CustomerInfo.entitlementOfRecord x.1 x.2) := by
  obtain ⟨k, v⟩ := e
  obtain ⟨key, product, purchase, expires, grace, ⟨⟩⟩ := x
  obtain ⟨hk, es, rfl, hproduct, hpurchase, hexpires, hgrace, -⟩ := h
  exact
    { key := hk
      identifier := rfl
      product := isHeld_required_iff.mp hproduct
      purchaseDate := ⟨es, rfl, isHeld_optionally_iff.mp hpurchase⟩
      expiresDate := ⟨es, rfl, isHeld_optionally_iff.mp hexpires⟩
      gracePeriodExpiresDate := ⟨es, rfl, isHeld_optionally_iff.mp hgrace⟩ }

theorem CustomerInfo.isDatedBy_of_reads {v : Value} {r : Body.subscription.Denotes}
    (h : Body.subscription.Reads v r) : IsDatedBy "expires_date" v (datesOfRecord r).2 ∧
      IsDatedBy "purchase_date" v (datesOfRecord r).1 := by
  obtain ⟨purchase, original, expires, period, store, sandbox, unsubscribed, billing, owner, ⟨⟩⟩ :=
    r
  obtain ⟨es, rfl, hpurchase, -, hexpires, -⟩ := h
  exact ⟨⟨es, rfl, isHeld_optionally_iff.mp hexpires⟩,
    ⟨es, rfl, isHeld_optionally_iff.mp hpurchase⟩⟩

theorem Transaction.isOf_of_reads {k v : Value} {product : Text}
    {r : Body.nonSubscriptionTransaction.Denotes} (hk : IsText k product)
    (h : Body.nonSubscriptionTransaction.Reads v r) :
    Transaction.IsOf (k, v) (CustomerInfo.transactionOfRecord product r) := by
  obtain ⟨id, purchase, store, sandbox, ⟨⟩⟩ := r
  obtain ⟨es, rfl, hid, hpurchase, -⟩ := h
  exact ⟨hk, isHeld_required_iff.mp hid, isHeld_required_iff.mp hpurchase⟩

namespace CustomerInfo

theorem isOf_flatMap_of_reads {members : List (Value × Value)}
    {xs : List (Text × List Body.nonSubscriptionTransaction.Denotes)}
    (h : List.Forall₂ (IsNamed (Schema.list Body.nonSubscriptionTransaction).Reads) members xs) :
    List.Forall₂ Transaction.IsOf (purchases members)
      (xs.flatMap fun x => x.2.map (transactionOfRecord x.1)) := by
  refine List.rel_flatMap h fun e x hex => ?_
  obtain ⟨hk, vs, hvs, hreads⟩ := hex
  rw [hvs, List.forall₂_map_left_iff, List.forall₂_map_right_iff]
  exact hreads.imp fun v r hr => Transaction.isOf_of_reads hk hr

theorem isOfSubscriber_of_reads {es raw : List (Value × Value)} {requestDate : DateTime}
    {n : Option Int} {r : Body.subscriber.Denotes} (h : Body.subscriber.Reads (.map es) r) :
    (ofRecord raw (requestDate, n, r, ())).IsOfSubscriber es := by
  obtain ⟨user, firstSeen, version, purchased, url, entitlements, subscriptions, purchases, ⟨⟩⟩ := r
  obtain ⟨_, ⟨⟩, huser, hseen, hversion, hpurchased, hurl, hentitlements, hsubscriptions,
    hpurchases, -⟩ := h
  refine
    { originalAppUserId := isHeld_required_iff.mp huser
      firstSeen := isHeld_required_iff.mp hseen
      originalApplicationVersion := isHeld_optionally_iff.mp hversion
      originalPurchaseDate := isHeld_optionally_iff.mp hpurchased
      managementUrl := isHeld_optionally_iff.mp hurl
      entitlements := ?_
      subscriptions := ?_
      transactions := ?_ }
  · obtain ⟨members, hmembers, hreads⟩ := exists_section entitlements hentitlements
    refine ⟨members, hmembers, List.forall₂_map_right_iff.mpr ?_⟩
    exact hreads.imp fun _ _ => Entitlement.isOf_of_reads
  · obtain ⟨members, hmembers, hreads⟩ := exists_section subscriptions hsubscriptions
    refine ⟨members, hmembers, List.forall₂_map_right_iff.mpr ?_, List.forall₂_map_right_iff.mpr ?_⟩
    · exact hreads.imp fun _ _ hx => ⟨hx.1, (isDatedBy_of_reads hx.2).1⟩
    · exact hreads.imp fun _ _ hx => ⟨hx.1, (isDatedBy_of_reads hx.2).2⟩
  · obtain ⟨members, hmembers, hreads⟩ := exists_section purchases hpurchases
    refine ⟨members, hmembers, fun e he => ?_, isOf_flatMap_of_reads hreads⟩
    obtain ⟨x, -, -, vs, hvs, -⟩ := Decoded.exists_of_mem_right hreads.flip he
    exact ⟨vs, hvs⟩

theorem isOf_of_decode {body : Value} {c : CustomerInfo} (hjson : body.IsJson)
    (h : decode body = .ok c) : c.IsOf body := by
  obtain ⟨r, hr, rfl⟩ := Decoded.map_eq_ok_iff.mp h
  have hreads := (Body.customerInfo.decode_eq_ok_iff_reads hjson).mp hr
  obtain ⟨requestDate, n, subscriber, ⟨⟩⟩ := r
  obtain ⟨es, rfl, hdate, -, hsubscriber, -⟩ := hreads
  -- the subscriber is required, so there is a mapping to read it from
  obtain ⟨v, hv, members, rfl, hmembers⟩ := isHeld_required_iff.mp hsubscriber
  exact
    { raw := rfl
      requestDate := isHeld_required_iff.mp hdate
      subscriber := ⟨members, hv, isOfSubscriber_of_reads ⟨members, rfl, hmembers⟩⟩ }

end CustomerInfo

/-! ## Offerings -/

theorem Package.isOf_of_reads {v : Value} {r : Body.package.Denotes} (h : Body.package.Reads v r) :
    (Offerings.packageOfRecord r).IsOf v := by
  obtain ⟨identifier, product, ⟨⟩⟩ := r
  obtain ⟨es, rfl, hidentifier, hproduct, -⟩ := h
  exact ⟨isHeld_required_iff.mp hidentifier, isHeld_required_iff.mp hproduct⟩

theorem Offering.isOf_of_reads {v : Value} {r : Body.offering.Denotes}
    (h : Body.offering.Reads v r) : (Offerings.offeringOfRecord r).IsOf v := by
  obtain ⟨identifier, description, packages, ⟨⟩⟩ := r
  obtain ⟨es, rfl, hidentifier, hdescription, hpackages, -⟩ := h
  obtain ⟨items, hitems, hreads⟩ := exists_items packages hpackages
  refine ⟨isHeld_required_iff.mp hidentifier, hdescription, items, hitems, ?_⟩
  exact List.forall₂_map_right_iff.mpr (hreads.imp fun _ _ => Package.isOf_of_reads)

namespace Offerings

variable {o : Offerings}

theorem isOf_of_decode {body : Value} (hjson : body.IsJson) (h : decode body = .ok o) :
    o.IsOf body := by
  obtain ⟨r, hr, rfl⟩ := Decoded.map_eq_ok_iff.mp h
  have hreads := (Body.offerings.decode_eq_ok_iff_reads hjson).mp hr
  obtain ⟨current, offerings, ⟨⟩⟩ := r
  obtain ⟨es, rfl, hcurrent, hofferings, -⟩ := hreads
  obtain ⟨items, hitems, hitemsReads⟩ := exists_items offerings hofferings
  refine ⟨rfl, isHeld_optionally_iff.mp hcurrent, items, hitems, ?_⟩
  exact List.forall₂_map_right_iff.mpr (hitemsReads.imp fun _ _ => Offering.isOf_of_reads)

theorem current?_eq_some_iff {x : Offering} : o.current? = some x ↔
    some x.identifier = o.currentOfferingId ∧ ∃ before after, o.offerings = before ++ x :: after ∧
      ∀ y ∈ before, some y.identifier ≠ o.currentOfferingId := by
  simp [current?, List.find?_eq_some_iff_append]

theorem current?_eq_none_iff :
    o.current? = none ↔ ∀ x ∈ o.offerings, some x.identifier ≠ o.currentOfferingId := by
  simp [current?]

end Offerings

/-! ## What answers come to -/

namespace Response

variable {body status : Value}

theorem exists_of_bind_eq_ok {α β : Type} {x : Attempt α} {f : α → Attempt β} {b : β}
    (h : x >>= f = .ok b) : ∃ a, x = .ok a ∧ f a = .ok b := by
  cases x with
  | error fault => cases h
  | ok a => exact ⟨a, rfl, h⟩

theorem decode_of_parseCustomerInfo {c : CustomerInfo} (h : parseCustomerInfo body status = .ok c) :
    CustomerInfo.decode body = .ok c := by
  obtain ⟨extra, -, h⟩ := exists_of_bind_eq_ok h
  split at h
  · cases h
  · split at h
    next info hdecode =>
      cases h
      exact hdecode
    next => cases h

/-- What can be decoded is accepted, if it can be written. -/
theorem parseCustomerInfo_of_decode {n : Int} (hn : Numeral.isWritable n = true)
    (hw : body.isWritable = true) (hjson : body.IsJson) {c : CustomerInfo}
    (h : CustomerInfo.decode body = .ok c) : parseCustomerInfo body (.int n) = .ok c := by
  have hreading := reading_parseCustomerInfo hjson hn hw
  generalize parseCustomerInfo body (.int n) = parsed at hreading ⊢
  cases hreading with
  | malformed hnull =>
    rw [hnull] at h
    cases h
  | unreadable _ hdecode =>
    rw [hdecode] at h
    cases h
  | read hdecode =>
    rw [hdecode] at h
    exact congrArg Except.ok (Except.ok.inj h)

theorem refuse_ne_ok {α : Type} {context : Context} {info : Option CustomerInfo} {a : α} :
    refuse body status context info ≠ .ok a := by
  intro h
  obtain ⟨envelope, -, h⟩ := exists_of_bind_eq_ok h
  cases h

theorem decode_of_offerings {failure : Option Failure} {o : Offerings}
    (h : offerings ⟨status, body, failure⟩ = .ok o) : Offerings.decode body = .ok o := by
  cases failure with
  | some failure => cases h
  | none =>
    obtain ⟨success, -, h⟩ := exists_of_bind_eq_ok h
    split at h
    · split at h
      · cases h
      · split at h
        next offerings hdecode =>
          cases h
          exact hdecode
        next =>
          obtain ⟨extra, -, h⟩ := exists_of_bind_eq_ok h
          cases h
    · obtain ⟨_, -, h⟩ := exists_of_bind_eq_ok h
      split at h
      · obtain ⟨extra, -, h⟩ := exists_of_bind_eq_ok h
        cases h
      · exact absurd h refuse_ne_ok

/-- Every body that customer info or offerings are read from comes through whole and in order. -/
theorem bodies_come_through (body status : Value) (hjson : body.IsJson) :
    (∀ c, parseCustomerInfo body status = .ok c → c.IsOf body) ∧
    ∀ failure o, offerings ⟨status, body, failure⟩ = .ok o →
      o.IsOf body ∧
      (∀ x, o.current? = some x ↔
        some x.identifier = o.currentOfferingId ∧
          ∃ before after, o.offerings = before ++ x :: after ∧
            ∀ y ∈ before, some y.identifier ≠ o.currentOfferingId) ∧
      (o.current? = none ↔ ∀ x ∈ o.offerings, some x.identifier ≠ o.currentOfferingId) := by
  refine ⟨fun c h => ?_, fun failure o h => ⟨?_, ?_, ?_⟩⟩
  · exact CustomerInfo.isOf_of_decode hjson (decode_of_parseCustomerInfo h)
  · exact Offerings.isOf_of_decode hjson (decode_of_offerings h)
  · exact fun x => Offerings.current?_eq_some_iff
  · exact Offerings.current?_eq_none_iff

def purchase (id date : String) : Value :=
  .record [("id", .text id.toText), ("purchase_date", .text date.toText)]

/-- Three products with single purchases, one of them with none. -/
def buyer : Value :=
  .record
    [("first_seen", .int 0),
      ("non_subscriptions", .record
        [("coins", .list [purchase "1" "2019-01-02", purchase "2" "2019-01-01"]),
          ("gems", .list []), ("keys", .list [purchase "3" "2019-01-03"])]),
      ("original_app_user_id", .text "me".toText)]

/-- A body of both kinds. Two offerings go by the current identifier. -/
def fullBody : Value :=
  .record
    [("current_offering_id", .text "main".toText),
      ("offerings", .list
        [.record [("identifier", .text "trial".toText)],
          .record [("description", .text "All".toText), ("identifier", .text "main".toText)],
          .record [("identifier", .text "main".toText), ("packages", .list [])]]),
      ("request_date", .text "2020-01-01T00:00:00Z".toText), ("subscriber", buyer)]

theorem isJson_purchase (id date : String) : (purchase id date).IsJson := by
  have hnames : ["id".toText, "purchase_date".toText].Nodup := by decide
  exact Value.isJson_record hnames (by simpa using ⟨.text _, .text _⟩)

theorem isJson_buyer : buyer.IsJson := by
  have hpurchases : (Value.record
      [("coins", .list [purchase "1" "2019-01-02", purchase "2" "2019-01-01"]),
        ("gems", .list []), ("keys", .list [purchase "3" "2019-01-03"])]).IsJson :=
    Value.isJson_record (by decide) (by
      simpa using ⟨.list (by simp [isJson_purchase]), .list nofun,
        .list (by simp [isJson_purchase])⟩)
  exact Value.isJson_record (by decide) (by simpa using ⟨.int 0, hpurchases, .text _⟩)

theorem isJson_fullBody : fullBody.IsJson := by
  have hoffering {fields : List (String × Value)} (hn : (fields.map fun f => f.1.toText).Nodup)
      (hv : ∀ f ∈ fields, f.2 = .list [] ∨ ∃ t, f.2 = .text t) : (Value.record fields).IsJson := by
    refine Value.isJson_record hn fun f hf => ?_
    rcases hv f hf with h | ⟨t, h⟩
    · exact h ▸ .list nofun
    · exact h ▸ .text t
  have hofferings : (Value.list
      [.record [("identifier", .text "trial".toText)],
        .record [("description", .text "All".toText), ("identifier", .text "main".toText)],
        .record [("identifier", .text "main".toText), ("packages", .list [])]]).IsJson :=
    .list (by
      simpa using ⟨hoffering (by decide) (by simp), hoffering (by decide) (by simp),
        hoffering (by decide) (by simp)⟩)
  exact Value.isJson_record (by decide)
    (by simpa using ⟨.text _, hofferings, .text _, isJson_buyer⟩)

theorem full_body_comes_through :
    fullBody.IsJson ∧ ∃ c o, parseCustomerInfo fullBody (.int 200) = .ok c ∧ c.IsOf fullBody ∧
      c.transactions.map (·.transactionIdentifier) = ["1", "2", "3"].map String.toText ∧
      offerings ⟨.int 200, fullBody, none⟩ = .ok o ∧ o.IsOf fullBody ∧
      o.current?.map (·.description) = some "All".toText := by
  obtain ⟨hinfo, hofferings⟩ := bodies_come_through fullBody (.int 200) isJson_fullBody
  obtain ⟨c, hc, hids⟩ : ∃ c, CustomerInfo.decode fullBody = .ok c ∧
      c.transactions.map (·.transactionIdentifier) = ["1", "2", "3"].map String.toText :=
    ⟨_, rfl, by decide⟩
  obtain ⟨o, ho, hcurrent⟩ : ∃ o, offerings ⟨.int 200, fullBody, none⟩ = .ok o ∧
      o.current?.map (·.description) = some "All".toText := ⟨_, rfl, by decide⟩
  have hn : Numeral.isWritable 200 = true := by decide
  have hparsed := parseCustomerInfo_of_decode hn (by decide) isJson_fullBody hc
  exact ⟨isJson_fullBody, c, o, hparsed, hinfo c hparsed, hids, ho, (hofferings none o ho).1,
    hcurrent⟩

end Response

end SubscriptionClient
