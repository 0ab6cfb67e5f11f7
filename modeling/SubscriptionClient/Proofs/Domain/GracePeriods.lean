import SubscriptionClient.Proofs.Domain.ActiveSets
import SubscriptionClient.Proofs.Schema.Readings
import SubscriptionClient.Proofs.Value.Members

/-!
# Grace periods

The end of a grace period takes the place of the expiry, also where there is no expiry or a later
one. So a grace date keeps access for all moments just if there is an expiry that is no later, and a
body that gains grace dates loses those active entitlements whose grace dates have passed.
-/

namespace SubscriptionClient

/-- A JSON value that is read as a date. -/
structure WrittenDate where
  value : Value
  date : DateTime
  isJson : value.IsJson
  reads : Scalar.dateTime value = .ok date

theorem WrittenDate.value_ne_null (d : WrittenDate) : d.value ≠ .null := by
  intro h
  have hreads := d.reads
  rw [h] at hreads
  cases hreads

/-! ## Bodies with more grace dates -/

namespace Body

def graceName : String := "grace_period_expires_date"

/-- An entitlement in a body with this grace date. -/
def withGrace (d : WrittenDate) : Value → Value
  | .map es => .map (Value.put (.text graceName.toText) d.value es)
  | v => v

/-- Gives an entitlement the grace date that there is for its key. -/
def addGrace (dates : Text → Option WrittenDate) : Value → Value → Value
  | .text key, v => (dates key).elim v fun d => withGrace d v
  | _, v => v

/-- A body with the given grace dates in its entitlements. -/
def withGraceDates (dates : Text → Option WrittenDate) : Value → Value :=
  .mapMembers <| .changeAt "subscriber" <| .mapMembers <| .changeAt "entitlements" <|
    .mapMembers (addGrace dates)

theorem isJson_withGrace {v : Value} (h : v.IsJson) (d : WrittenDate) : (withGrace d v).IsJson := by
  cases v with
  | map es => exact h.put d.isJson
  | null | bool | int | float | text | bytes | decimal | dateTime | list => exact h

theorem isJson_addGrace {v : Value} (h : v.IsJson) (dates : Text → Option WrittenDate) (k : Value) :
    (addGrace dates k v).IsJson := by
  cases k with
  | text key =>
    rw [addGrace]
    cases dates key with
    | none => exact h
    | some d => exact isJson_withGrace h d
  | null | bool | int | float | bytes | decimal | dateTime | list | map => exact h

theorem isJson_withGraceDates {body : Value} (h : body.IsJson) (dates : Text → Option WrittenDate) :
    (withGraceDates dates body).IsJson :=
  h.mapMembers fun k _ => Value.isJson_changeAt
    (fun _ hw => hw.mapMembers fun k _ => Value.isJson_changeAt
      (fun _ hu => hu.mapMembers fun k _ ht => isJson_addGrace ht dates k) k) k

/-! ## What they are read as -/

section Change

variable {α : Type} {reads : Value → α → Prop} {required : Bool} {blank a : α}
  {name other : String} {g : Value → Value} {es : List (Value × Value)}

theorem isHeld_changeAt_of_ne (h : IsHeld reads required blank (Value.member? name es) a)
    (hne : name ≠ other) : IsHeld reads required blank
      (Value.member? name (Value.mapValues (.changeAt other g) es)) a := by
  rwa [Value.member?_changeAt_of_ne hne]

theorem isHeld_changeAt_self {f : α → α}
    (h : IsHeld reads required blank (Value.member? name es) a) (hblank : f blank = blank)
    (hg : ∀ v, reads v a → reads (g v) (f a)) :
    IsHeld reads required blank (Value.member? name (Value.mapValues (.changeAt name g) es))
      (f a) := by
  rw [Value.member?_changeAt_self]
  cases hm : Value.member? name es with
  | none =>
    rw [hm] at h
    obtain ⟨hr, rfl⟩ := h
    exact ⟨hr, hblank⟩
  | some v =>
    rw [hm] at h
    exact hg v h

theorem isHeld_put_of_ne {v : Value} (h : IsHeld reads required blank (Value.member? name es) a)
    (hne : name ≠ other) : IsHeld reads required blank
      (Value.member? name (Value.put (.text other.toText) v es)) a := by
  rwa [Value.member?_put_of_ne hne]

end Change

/-- An entitlement that was read, with the grace date that there is for its key. -/
def gracedRecord (dates : Text → Option WrittenDate) (key : Text) :
    entitlement.Denotes → entitlement.Denotes
  | (product, purchase, expires, grace, ()) =>
    (product, purchase, expires, ((dates key).map (·.date)).or grace, ())

theorem entitlement_reads_addGrace {e : Value × Value} {x : Text × entitlement.Denotes}
    (dates : Text → Option WrittenDate) (h : IsNamed entitlement.Reads e x) :
    IsNamed entitlement.Reads (e.1, addGrace dates e.1 e.2)
      (x.1, gracedRecord dates x.1 x.2) := by
  obtain ⟨k, v⟩ := e
  obtain ⟨key, product, purchase, expires, grace, ⟨⟩⟩ := x
  obtain ⟨rfl, es, rfl, hproduct, hpurchase, hexpires, hgrace, -⟩ := h
  refine ⟨rfl, ?_⟩
  simp only [addGrace, gracedRecord]
  cases dates key with
  | none => exact ⟨es, rfl, hproduct, hpurchase, hexpires, hgrace, trivial⟩
  | some d =>
    refine ⟨_, rfl, isHeld_put_of_ne hproduct (by decide), isHeld_put_of_ne hpurchase (by decide),
      isHeld_put_of_ne hexpires (by decide), ?_, trivial⟩
    rw [show Value.member? "grace_period_expires_date" _ = some d.value from
      Value.member?_put_self graceName d.value es]
    exact .value d.value_ne_null d.reads

theorem entitlements_reads_addGrace {v : Value} {xs : List (Text × entitlement.Denotes)}
    (dates : Text → Option WrittenDate) (h : (Schema.mapping entitlement).Reads v xs) :
    (Schema.mapping entitlement).Reads (v.mapMembers (addGrace dates))
      (xs.map fun x => (x.1, gracedRecord dates x.1 x.2)) := by
  obtain ⟨es, rfl, hes⟩ := h
  refine ⟨_, rfl, ?_⟩
  rw [Value.mapValues, List.forall₂_map_left_iff, List.forall₂_map_right_iff]
  exact hes.imp fun _ _ => entitlement_reads_addGrace dates

def gracedSubscriber (dates : Text → Option WrittenDate) : subscriber.Denotes → subscriber.Denotes
  | (user, firstSeen, version, purchased, url, entitlements, rest) =>
    (user, firstSeen, version, purchased, url,
      entitlements.map fun x => (x.1, gracedRecord dates x.1 x.2), rest)

def gracedInfo (dates : Text → Option WrittenDate) : customerInfo.Denotes → customerInfo.Denotes
  | (requestDate, n, info, ()) => (requestDate, n, gracedSubscriber dates info, ())

theorem subscriber_reads_graced {v : Value} {r : subscriber.Denotes}
    (dates : Text → Option WrittenDate) (h : subscriber.Reads v r) :
    subscriber.Reads (v.mapMembers (.changeAt "entitlements" (.mapMembers (addGrace dates))))
      (gracedSubscriber dates r) := by
  obtain ⟨user, firstSeen, version, purchased, url, entitlements, subscriptions, purchases, ⟨⟩⟩ := r
  obtain ⟨es, rfl, huser, hseen, hversion, hpurchased, hurl, hentitlements, hsubscriptions,
    hpurchases, -⟩ := h
  exact ⟨_, rfl, isHeld_changeAt_of_ne huser (by decide), isHeld_changeAt_of_ne hseen (by decide),
    isHeld_changeAt_of_ne hversion (by decide), isHeld_changeAt_of_ne hpurchased (by decide),
    isHeld_changeAt_of_ne hurl (by decide),
    isHeld_changeAt_self hentitlements rfl fun _ => entitlements_reads_addGrace dates,
    isHeld_changeAt_of_ne hsubscriptions (by decide), isHeld_changeAt_of_ne hpurchases (by decide),
    trivial⟩

theorem customerInfo_reads_graced {v : Value} {r : customerInfo.Denotes}
    (dates : Text → Option WrittenDate) (h : customerInfo.Reads v r) :
    customerInfo.Reads (withGraceDates dates v) (gracedInfo dates r) := by
  obtain ⟨requestDate, n, info, ⟨⟩⟩ := r
  obtain ⟨es, rfl, hdate, hn, hinfo, -⟩ := h
  exact ⟨_, rfl, isHeld_changeAt_of_ne hdate (by decide), isHeld_changeAt_of_ne hn (by decide),
    isHeld_changeAt_self hinfo rfl fun _ => subscriber_reads_graced dates, trivial⟩

end Body

/-! ## Entitlements -/

namespace Entitlement

variable {e : Entitlement} {grace now : DateTime}

def withGrace (grace : DateTime) (e : Entitlement) : Entitlement :=
  { e with gracePeriodExpiresDate := some grace }

def withoutGrace (e : Entitlement) : Entitlement := { e with gracePeriodExpiresDate := none }

/-- An entitlement with another grace date, if there is one. -/
def gracedBy (d : Option WrittenDate) (e : Entitlement) : Entitlement :=
  { e with gracePeriodExpiresDate := (d.map (·.date)).or e.gracePeriodExpiresDate }

theorem effectiveExpiry_gracedBy (d : Option WrittenDate) (e : Entitlement) :
    (e.gracedBy d).effectiveExpiry = (d.map (·.date)).or e.effectiveExpiry :=
  Option.or_assoc

/-- The grace date alone tells whether an entitlement that has one is active. -/
theorem isActiveAt?_withGrace (hgrace : grace.isAware = true) (hnow : now.isAware = true) :
    (e.withGrace grace).isActiveAt? now = some (decide (now.moment < grace.moment)) := by
  show grace.later? now = _
  rw [DateTime.later?_eq, if_pos (hgrace.trans hnow.symm)]

theorem isActiveAt?_withoutGrace (e : Entitlement) (now : DateTime) :
    e.withoutGrace.isActiveAt? now = CustomerInfo.outlasts? true now e.expiresDate :=
  CustomerInfo.isActiveAt?_eq e.withoutGrace now

/-- The moments at which an entitlement is active all stay so just if it has an expiry that the
grace date does not precede. -/
theorem forall_active_withGrace_iff (he : ∀ t ∈ e.expiresDate, t.isAware = true)
    (hgrace : grace.isAware = true) :
    (∀ now, now.isAware = true → e.withoutGrace.isActiveAt? now = some true →
      (e.withGrace grace).isActiveAt? now = some true) ↔
    ∃ expiry, e.expiresDate = some expiry ∧ expiry.moment ≤ grace.moment := by
  constructor
  · intro h
    -- the moment of the grace date itself is one that it does not cover
    have hlost : e.withoutGrace.isActiveAt? grace ≠ some true := fun hactive => by
      have hkept := h grace hgrace hactive
      simp [isActiveAt?_withGrace hgrace hgrace] at hkept
    rw [isActiveAt?_withoutGrace] at hlost
    cases hexpiry : e.expiresDate with
    | none => simp [hexpiry, CustomerInfo.outlasts?] at hlost
    | some expiry =>
      refine ⟨expiry, rfl, Int.not_lt.mp fun hlt => hlost ?_⟩
      rw [hexpiry]
      exact DateTime.later?_eq_true_iff.mpr ⟨(he expiry hexpiry).trans hgrace.symm, hlt⟩
  · rintro ⟨expiry, hexpiry, hle⟩ now hnow hactive
    rw [isActiveAt?_withoutGrace, hexpiry] at hactive
    obtain ⟨-, hlt⟩ := DateTime.later?_eq_true_iff.mp hactive
    rw [isActiveAt?_withGrace hgrace hnow, decide_eq_true (Int.lt_of_lt_of_le hlt hle)]

end Entitlement

/-! ## Customer info -/

namespace CustomerInfo

/-- Whether every date that tells what is active has an offset. -/
structure IsAware (c : CustomerInfo) : Prop where
  requestDate : c.requestDate.isAware = true
  expiresDate : ∀ e ∈ c.entitlements, ∀ t ∈ e.2.expiresDate, t.isAware = true
  gracePeriodExpiresDate : ∀ e ∈ c.entitlements, ∀ t ∈ e.2.gracePeriodExpiresDate,
    t.isAware = true

/-- Customer info with the given grace dates in its entitlements. -/
def withGraceDates (dates : Text → Option WrittenDate) (c : CustomerInfo) : CustomerInfo :=
  { c with entitlements := c.entitlements.map fun e => (e.1, e.2.gracedBy (dates e.1)) }

variable {c : CustomerInfo} {dates : Text → Option WrittenDate} {es es' : List (Text × Entitlement)}
  {key : Text}

theorem entitlementOfRecord_gracedRecord (dates : Text → Option WrittenDate) (key : Text)
    (r : Body.entitlement.Denotes) : entitlementOfRecord key (Body.gracedRecord dates key r) =
      (entitlementOfRecord key r).gracedBy (dates key) := rfl

theorem map_entitlementOfRecord_gracedRecord (dates : Text → Option WrittenDate)
    (xs : List (Text × Body.entitlement.Denotes)) :
    (xs.map fun x => (x.1, Body.gracedRecord dates x.1 x.2)).map
        (fun x => (x.1, entitlementOfRecord x.1 x.2)) =
      (xs.map fun x => (x.1, entitlementOfRecord x.1 x.2)).map fun e =>
        (e.1, e.2.gracedBy (dates e.1)) := by
  simp only [List.map_map, Function.comp_def, entitlementOfRecord_gracedRecord]

theorem ofRecord_gracedInfo (dates : Text → Option WrittenDate) (raw raw' : List (Value × Value))
    (r : Body.customerInfo.Denotes) : ofRecord raw' (Body.gracedInfo dates r) =
      { (ofRecord raw r).withGraceDates dates with raw := raw' } := by
  obtain ⟨requestDate, n, ⟨user, firstSeen, version, purchased, url, entitlements, subscriptions,
    purchases, ⟨⟩⟩, ⟨⟩⟩ := r
  exact congrArg (fun es => CustomerInfo.mk _ _ _ _ _ _ es _ _ _ _)
    (map_entitlementOfRecord_gracedRecord dates entitlements)

/-- A body with more grace dates is read as the customer info with them. -/
theorem exists_decode_withGraceDates {body : Value} (hjson : body.IsJson)
    (h : decode body = .ok c) (dates : Text → Option WrittenDate) :
    ∃ raw, decode (Body.withGraceDates dates body) = .ok { c.withGraceDates dates with raw } := by
  obtain ⟨r, hr, rfl⟩ := Decoded.map_eq_ok_iff.mp h
  have hreads := (Body.customerInfo.decode_eq_ok_iff_reads hjson).mp hr
  have hgraced := (Body.customerInfo.decode_eq_ok_iff_reads
    (Body.isJson_withGraceDates hjson dates)).mpr (Body.customerInfo_reads_graced dates hreads)
  exact ⟨(Body.withGraceDates dates body).members,
    Decoded.map_eq_ok_iff.mpr ⟨_, hgraced, ofRecord_gracedInfo dates _ _ r⟩⟩

theorem IsAware.effectiveExpiry (h : c.IsAware) {e : Text × Entitlement} (he : e ∈ c.entitlements)
    {t : DateTime} (ht : e.2.effectiveExpiry = some t) : t.isAware = true := by
  rw [Entitlement.effectiveExpiry, Option.or_eq_some_iff] at ht
  rcases ht with hgrace | ⟨-, hexpires⟩
  · exact h.gracePeriodExpiresDate e he t hgrace
  · exact h.expiresDate e he t hexpires

theorem IsAware.withGraceDates (h : c.IsAware)
    (hdates : ∀ key, ∀ d ∈ dates key, d.date.isAware = true) (raw : List (Value × Value)) :
    IsAware { c.withGraceDates dates with raw } where
  requestDate := h.requestDate
  expiresDate := by
    intro e he t ht
    obtain ⟨e, hmem, rfl⟩ := List.mem_map.mp he
    exact h.expiresDate e hmem t ht
  gracePeriodExpiresDate := by
    intro e he t ht
    obtain ⟨e, hmem, rfl⟩ := List.mem_map.mp he
    rcases Option.or_eq_some_iff.mp ht with hgrace | ⟨-, hgrace⟩
    · obtain ⟨d, hd, rfl⟩ := Option.map_eq_some_iff.mp hgrace
      exact hdates e.1 d hd
    · exact h.gracePeriodExpiresDate e hmem t hgrace

/-- Between dates with offsets the active entitlements are always defined. -/
theorem IsAware.exists_activeEntitlements (h : c.IsAware) :
    ∃ es, c.activeEntitlements? = some es ∧ ∀ key, key ∈ es.map Prod.fst ↔
      ∃ e ∈ c.entitlements, e.1 = key ∧
        ∀ t, e.2.effectiveExpiry = some t → c.requestDate.moment < t.moment := by
  have hne : c.activeEntitlements? ≠ none := fun hnone => by
    rw [activeEntitlements?_eq, select?_outlasts_eq_none_iff] at hnone
    obtain ⟨e, he, t, ht, hmixed⟩ := hnone
    exact hmixed ((h.effectiveExpiry he ht).trans h.requestDate.symm)
  obtain ⟨es, hes⟩ := Option.ne_none_iff_exists'.mp hne
  refine ⟨es, hes, fun key => ?_⟩
  rw [activeEntitlements?_eq] at hes
  rw [eq_filter_of_select?_outlasts hes, List.mem_map]
  refine exists_congr fun e => ?_
  rw [List.mem_filter]
  cases e.2.effectiveExpiry <;> simp [and_left_comm, and_comm]

/-- Grace dates take away what they do not cover, and nothing else. -/
theorem mem_active_withGraceDates_iff {raw : List (Value × Value)} (h : c.IsAware)
    (hdates : ∀ key, ∀ d ∈ dates key, d.date.isAware = true)
    (hes : c.activeEntitlements? = some es)
    (hes' : ({ c.withGraceDates dates with raw } : CustomerInfo).activeEntitlements? = some es')
    (hkey : key ∈ es.map Prod.fst) :
    key ∈ es'.map Prod.fst ↔ ∀ d ∈ dates key, c.requestDate.moment < d.date.moment := by
  obtain ⟨_, hactive, hmem⟩ := h.exists_activeEntitlements
  cases hes.symm.trans hactive
  -- the grace dates have offsets too, so the second set is told by the same condition
  obtain ⟨_, hactive', hmem'⟩ := (h.withGraceDates hdates raw).exists_activeEntitlements
  cases hes'.symm.trans hactive'
  obtain ⟨e, he, rfl, hcover⟩ := (hmem key).mp hkey
  rw [hmem']
  constructor
  · rintro ⟨_, hgraced, hname, hlt⟩ d hd
    obtain ⟨e', he', rfl⟩ := List.mem_map.mp hgraced
    refine hlt d.date ?_
    rw [Entitlement.effectiveExpiry_gracedBy, show dates e'.1 = some d from hname ▸ hd]
    rfl
  · intro hlt
    refine ⟨_, List.mem_map_of_mem he, rfl, fun t ht => ?_⟩
    rw [Entitlement.effectiveExpiry_gracedBy, Option.or_eq_some_iff, Option.map_eq_some_iff] at ht
    rcases ht with ⟨d, hd, rfl⟩ | ⟨-, ht⟩
    · exact hlt d hd
    · exact hcover t ht

/-- A grace date keeps an entitlement active for all moments just if there is an expiry and the
grace date does not precede it. In a body the grace dates cost the active entitlements whose grace
dates have passed, and none if no grace date precedes the end that it takes the place of. -/
theorem grace_keeps_access_iff {body : Value} (hjson : body.IsJson) (hdecode : decode body = .ok c)
    (haware : c.IsAware) :
    (∀ e ∈ c.entitlements, ∀ grace : DateTime, grace.isAware = true →
      (∀ now, now.isAware = true →
        (e.2.withGrace grace).isActiveAt? now = some (decide (now.moment < grace.moment))) ∧
      ((∀ now, now.isAware = true → e.2.withoutGrace.isActiveAt? now = some true →
          (e.2.withGrace grace).isActiveAt? now = some true) ↔
        ∃ expiry, e.2.expiresDate = some expiry ∧ expiry.moment ≤ grace.moment)) ∧
    ∀ dates : Text → Option WrittenDate, (∀ key, ∀ d ∈ dates key, d.date.isAware = true) →
      ∃ c' es es', decode (Body.withGraceDates dates body) = .ok c' ∧
        c.activeEntitlements? = some es ∧ c'.activeEntitlements? = some es' ∧
        (∀ key ∈ es.map Prod.fst,
          (key ∈ es'.map Prod.fst ↔ ∀ d ∈ dates key, c.requestDate.moment < d.date.moment)) ∧
        ((∀ e ∈ c.entitlements, ∀ d ∈ dates e.1,
            ∃ expiry, e.2.effectiveExpiry = some expiry ∧ expiry.moment ≤ d.date.moment) →
          es.map Prod.fst ⊆ es'.map Prod.fst) := by
  refine ⟨fun e he grace hgrace => ⟨fun now hnow => ?_, ?_⟩, fun dates hdates => ?_⟩
  · exact Entitlement.isActiveAt?_withGrace hgrace hnow
  · exact Entitlement.forall_active_withGrace_iff (haware.expiresDate e he) hgrace
  obtain ⟨raw, hdecode'⟩ := exists_decode_withGraceDates hjson hdecode dates
  obtain ⟨es, hes, hmem⟩ := haware.exists_activeEntitlements
  obtain ⟨es', hes', -⟩ := (haware.withGraceDates hdates raw).exists_activeEntitlements
  have hkept (key : Text) (hkey : key ∈ es.map Prod.fst) :=
    mem_active_withGraceDates_iff haware hdates hes hes' hkey
  refine ⟨_, es, es', hdecode', hes, hes', hkept, fun hlate key hkey => ?_⟩
  refine (hkept key hkey).mpr fun d hd => ?_
  obtain ⟨e, he, rfl, hcover⟩ := (hmem key).mp hkey
  obtain ⟨expiry, hexpiry, hle⟩ := hlate e he d hd
  exact Int.lt_of_lt_of_le (hcover expiry hexpiry) hle

/-- A lifetime entitlement and one that is paid for the year. -/
def bought : Value :=
  .record
    [("gold", .record [("product_identifier", .text "g".toText)]),
      ("pro", .record
        [("expires_date", .text "2025-01-01T00:00:00Z".toText),
          ("product_identifier", .text "p".toText)])]

def paid : Value :=
  .record
    [("request_date", .text "2024-01-02T00:00:00Z".toText),
      ("subscriber", .record
        [("entitlements", bought), ("first_seen", .int 0),
          ("original_app_user_id", .text "me".toText)])]

theorem isJson_bought : bought.IsJson := by
  have htexts {fields : List (String × Value)} (hn : (fields.map fun f => f.1.toText).Nodup)
      (hv : ∀ f ∈ fields, ∃ t, f.2 = .text t) : (Value.record fields).IsJson := by
    refine Value.isJson_record hn fun f hf => ?_
    obtain ⟨t, ht⟩ := hv f hf
    exact ht ▸ .text t
  exact Value.isJson_record (by decide)
    (by simpa using ⟨htexts (by decide) (by simp), htexts (by decide) (by simp)⟩)

theorem isJson_paid : paid.IsJson := by
  have hsubscriber : (Value.record
      [("entitlements", bought), ("first_seen", .int 0),
        ("original_app_user_id", .text "me".toText)]).IsJson :=
    Value.isJson_record (by decide) (by simpa using ⟨isJson_bought, .int 0, .text _⟩)
  exact Value.isJson_record (by decide) (by simpa using ⟨.text _, hsubscriber⟩)

/-- The day before the request. -/
def past : WrittenDate where
  value := .text "2024-01-01T00:00:00Z".toText
  date := ⟨⟨2024, 1, 1⟩, 0, some 0⟩
  isJson := .text _
  reads := by decide +kernel

/-- Some days after the year. -/
def late : WrittenDate where
  value := .text "2025-01-17T00:00:00Z".toText
  date := ⟨⟨2025, 1, 17⟩, 0, some 0⟩
  isJson := .text _
  reads := by decide +kernel

theorem exists_decode_paid :
    ∃ c, decode paid = .ok c ∧ c.requestDate = ⟨⟨2024, 1, 2⟩, 0, some 0⟩ ∧
      c.entitlements =
        [("gold".toText, ⟨"gold".toText, "g".toText, none, none, none⟩),
          ("pro".toText, ⟨"pro".toText, "p".toText, none, some ⟨⟨2025, 1, 1⟩, 0, some 0⟩, none⟩)] :=
  ⟨_, rfl, by decide +kernel, by decide +kernel⟩

theorem isAware_of_decode_paid (h : decode paid = .ok c) : c.IsAware := by
  obtain ⟨_, hc, hdate, hentitlements⟩ := exists_decode_paid
  cases h.symm.trans hc
  exact ⟨hdate ▸ rfl, hentitlements ▸ by decide, hentitlements ▸ by decide⟩

/-- Yesterday's grace dates end what is paid for, be it forever. -/
theorem past_grace_locks_out :
    ∃ c c', decode paid = .ok c ∧ c.IsAware ∧
      decode (Body.withGraceDates (fun _ => some past) paid) = .ok c' ∧
      (∀ e ∈ c.entitlements, e.2.withoutGrace.isActiveAt? c.requestDate = some true ∧
        (e.2.withGrace past.date).isActiveAt? c.requestDate = some false) ∧
      c.activeEntitlements?.map (·.map Prod.fst) = some ["gold".toText, "pro".toText] ∧
      c'.activeEntitlements? = some [] :=
  ⟨_, _, rfl, isAware_of_decode_paid rfl, rfl, by decide +kernel, by decide +kernel,
    by decide +kernel⟩

theorem late_grace_keeps_pro :
    paid.IsJson ∧ ∃ c, decode paid = .ok c ∧ c.IsAware ∧ late.date.isAware = true ∧
      ∃ c' es es', decode (Body.withGraceDates
          (fun key => if key = "pro".toText then some late else none) paid) = .ok c' ∧
        c.activeEntitlements? = some es ∧ c'.activeEntitlements? = some es' ∧
        es.map Prod.fst ⊆ es'.map Prod.fst := by
  obtain ⟨c, hc, -, hentitlements⟩ := exists_decode_paid
  have haware := isAware_of_decode_paid hc
  obtain ⟨-, hbody⟩ := grace_keeps_access_iff isJson_paid hc haware
  obtain ⟨c', es, es', hc', hes, hes', -, hkeep⟩ :=
    hbody (fun key => if key = "pro".toText then some late else none) (by
      intro key d hd
      split at hd
      · exact Option.some.inj hd ▸ rfl
      · cases hd)
  refine ⟨isJson_paid, c, hc, haware, rfl, c', es, es', hc', hes, hes', hkeep ?_⟩
  rw [hentitlements]
  decide +kernel

end CustomerInfo

end SubscriptionClient
