import SubscriptionClient.Proofs.Request.Identity
import SubscriptionClient.Proofs.Request.ProductText

/-!
# The identity of a receipt

The text of a product does not always tell the product: a dash inside a part reads like one between
two parts. Two receipts that agree in the rest and in these texts have one key, whatever they send
about their products; and apart from collisions of the digest there is no other way to share a key.
-/

namespace SubscriptionClient

open Value RequestKey

/-- Whether two bodies are the same JSON, or fail in the same way. -/
inductive SameBody : Except Misuse Value → Except Misuse Value → Prop where
  | ok {b c : Value} (h : SameJson b c) : SameBody (.ok b) (.ok c)
  | error (m : Misuse) : SameBody (.error m) (.error m)

/-! ## What is said about a product -/

theorem Discount.sameJson_refl {d : Discount} {v : Value} (hd : d.offerIdentifier.IsOptional)
    (h : d.toValue? = some v) : SameJson v v := by
  simp only [toValue?, Option.bind_eq_bind, Option.bind_eq_some_iff, Option.pure_def,
    Option.some.injEq] at h
  obtain ⟨price, -, rfl⟩ := h
  rw [sameJson_record_iff ["offer_identifier", "price", "payment_mode"] (by decide) rfl rfl]
  simp only [List.forall₂_cons, List.Forall₂.nil, and_true]
  exact ⟨hd.isPlain.sameJson_refl, .float price, .int d.paymentMode.code⟩

theorem Discount.sameJson_refl_of_mapM {ds : List Discount} {offers : List Value}
    (hd : ∀ d ∈ ds, d.offerIdentifier.IsOptional) (h : ds.mapM toValue? = some offers) :
    ∀ v ∈ offers, SameJson v v := by
  induction ds generalizing offers with
  | nil =>
    obtain rfl := Option.some.inj h
    exact nofun
  | cons d ds ih =>
    simp only [List.mapM_cons, Option.bind_eq_bind, Option.bind_eq_some_iff, Option.pure_def,
      Option.some.injEq] at h
    obtain ⟨v, hv, vs, hvs, rfl⟩ := h
    refine List.forall_mem_cons.mpr ⟨?_, ?_⟩
    · exact Discount.sameJson_refl (hd d List.mem_cons_self) hv
    · exact ih (fun e he => hd e (List.mem_cons_of_mem d he)) hvs

namespace Product

variable {fields : List (String × Option Value)}

theorem rel_filled? {v : Value} (h : v.IsOptional) :
    Option.Rel SameJson (filled? v) (filled? v) := by
  unfold filled?
  split
  · exact .some h.isPlain.sameJson_refl
  · exact .none

theorem rel_ite {a b : Option Value} {c : Prop} [Decidable c] (ha : Option.Rel SameJson a a)
    (hb : Option.Rel SameJson b b) :
    Option.Rel SameJson (if c then a else b) (if c then a else b) := by
  split
  · exact ha
  · exact hb

theorem forall₂_fields {p : Option Product} (hp : ∀ q ∈ p, q.IsTyped)
    (h : fieldsIn? p = some fields) :
    List.Forall₂ (fun f g => Option.Rel SameJson f.2 g.2) fields fields := by
  rw [List.forall₂_same]
  cases p with
  | none =>
    obtain rfl := Option.some.inj h
    intro f hf
    obtain ⟨n, -, rfl⟩ := List.mem_map.mp hf
    exact .none
  | some p =>
    have hp := hp p rfl
    obtain ⟨price, -, offers, hoffers, rfl⟩ := fieldsIn?_some_iff.mp h
    have hlist : SameJson (.list offers) (.list offers) := by
      refine .list rfl fun i x y hx hy => ?_
      obtain rfl := Option.some.inj (hx.symm.trans hy)
      exact Discount.sameJson_refl_of_mapM hp.offers hoffers x (List.mem_of_getElem? hx)
    simp only [allFields, List.cons_append, List.nil_append, List.forall_mem_cons]
    exact ⟨.some hp.identifier.isPlain.sameJson_refl, .some (.float price),
      rel_filled? hp.currencyCode, rel_ite .none (.some (.int _)), rel_filled? hp.normalDuration,
      rel_ite (rel_filled? hp.introDuration) .none, rel_ite .none (rel_filled? hp.introDuration),
      rel_filled? hp.subscriptionGroup, rel_ite .none (.some hlist),
      List.forall_mem_nil _⟩

end Product

namespace Receipt

variable {r s : Receipt} {k l : Text}

/-- Whether the arguments of a receipt are plain, its product having texts where they are declared. -/
structure IsPlain (r : Receipt) : Prop where
  fetchToken : r.fetchToken.IsPlain
  appUserId : r.appUserId.IsPlain
  isRestore : r.isRestore.IsPlain
  observerMode : r.observerMode.IsPlain
  offering : r.presentedOfferingIdentifier.IsPlain
  attributes : ∀ as ∈ r.attributes, as.toValue.IsPlain
  product : ∀ p ∈ r.product, p.IsTyped

/-- The text of the product of a receipt. -/
def productText? (r : Receipt) : Option Text := r.product.map Product.keyText

def identity (r : Receipt) : Value := receiptIdentity r (.ofText? r.productText?)

theorem identity?_eq (h : r.IsPlain) : (Operation.postReceipt r).identity? = .ok r.identity := by
  rw [Operation.identity?, identity, productText?]
  cases hp : r.product with
  | none => rfl
  | some p =>
    rw [productIdentity?, Product.cacheKey?_eq (h.product p hp)]
    rfl

theorem isPlain_identity (h : r.IsPlain) : r.identity.IsPlain := by
  have hattributes : (Value.ofOption Attributes.toValue r.attributes).IsPlain := by
    cases ha : r.attributes with
    | none => exact .null
    | some as => exact h.attributes as ha
  have hproduct : (Value.ofText? r.productText?).IsPlain := by
    unfold productText?
    cases hp : r.product with
    | none => exact .null
    | some p => exact .text (Product.isClean_keyText (h.product p hp))
  apply isPlain_record identityNames (by decide) rfl
  simp only [List.forall_mem_cons]
  exact ⟨h.appUserId, h.isRestore, h.fetchToken, hproduct, h.offering, h.observerMode, hattributes,
    nofun⟩

theorem key_eq_make (h : r.IsPlain) :
    RequestKey.receipt r = make Method.post.word.toText Path.receipts r.identity :=
  Operation.key?_eq (.postReceipt r) (identity?_eq h)

theorem isCanonical_identity (h : r.IsPlain) (hk : RequestKey.receipt r = .ok k) :
    r.identity.IsCanonical :=
  isCanonical_of_make (isPlain_identity h) ((key_eq_make h).symm.trans hk)

theorem key_eq (h : r.IsPlain) (hk : RequestKey.receipt r = .ok k) :
    k = keyOf .post Path.receipts r.identity := by
  have hmade := make_eq (m := .post) (p := Path.receipts) (isCanonical_identity h hk)
  exact Except.ok.inj (hk.symm.trans ((key_eq_make h).trans hmade))

theorem collides_iff (hr : r.IsPlain) (hs : s.IsPlain) :
    (Operation.postReceipt r).Collides (.postReceipt s) ↔ Collision r.identity s.identity := by
  constructor
  · rintro ⟨v, w, hv, hw, h⟩
    rw [identity?_eq hr] at hv
    rw [identity?_eq hs] at hw
    cases hv
    cases hw
    exact h
  · intro h
    exact ⟨_, _, identity?_eq hr, identity?_eq hs, h⟩

/-- The identities of two receipts are the same when all but the products is, and the texts of the
products are. -/
theorem sameJson_identities_iff :
    SameJson r.identity s.identity ↔ SameRest r s ∧ r.productText? = s.productText? := by
  have htext (t u : Option Text) : SameJson (.ofText? t) (.ofText? u) ↔ t = u := by
    constructor
    · intro h
      cases t <;> cases u <;> cases h <;> rfl
    · rintro rfl
      cases t with
      | none => exact .null
      | some t => exact .text t
  rw [identity, identity, sameJson_identity_iff, htext]

/-- Two receipts share a key when they agree in the rest and in the text of the product, or when
their identities collide; and only then. -/
theorem key_eq_iff (hr : r.IsPlain) (hs : s.IsPlain) (hk : RequestKey.receipt r = .ok k)
    (hl : RequestKey.receipt s = .ok l) :
    k = l ↔ SameRest r s ∧ r.productText? = s.productText? ∨
      (Operation.postReceipt r).Collides (.postReceipt s) := by
  rw [key_eq hr hk, key_eq hs hl, keyOf_eq_iff rfl rfl, collides_iff hr hs,
    ← sameJson_identities_iff]
  have hidentity := isCanonical_identity hr hk
  have hidentity' := isCanonical_identity hs hl
  constructor
  · rintro ⟨-, h⟩
    exact sameJson_or_collision hidentity hidentity' h
  · rintro (h | h)
    · exact ⟨rfl, by rw [(payload_eq_iff hidentity hidentity').mpr h]⟩
    · exact ⟨rfl, h.2⟩

theorem not_collides (hr : r.IsPlain) (hs : s.IsPlain) (hk : RequestKey.receipt r = .ok k)
    (hl : RequestKey.receipt s = .ok l) (h : SameRest r s)
    (htext : r.productText? = s.productText?) :
    ¬(Operation.postReceipt r).Collides (.postReceipt s) := by
  rw [collides_iff hr hs]
  intro hcollision
  have hsame := sameJson_identities_iff.mpr ⟨h, htext⟩
  exact hcollision.1
    ((payload_eq_iff (isCanonical_identity hr hk) (isCanonical_identity hs hl)).mpr hsame)

/-- The bodies of two receipts are the same when all but the products is, and what they say about
the products is. -/
theorem sameBody_of_fields (hr : r.IsPlain) (h : SameRest r s)
    (hfields : Product.fieldsIn? r.product = Product.fieldsIn? s.product) :
    SameBody (Operation.receiptBody r) (Operation.receiptBody s) := by
  cases hf : Product.fieldsIn? r.product with
  | none =>
    rw [body_eq_error hf, body_eq_error (hfields.symm.trans hf)]
    exact .error _
  | some fields =>
    have hf' := hfields.symm.trans hf
    rw [body_eq hf, body_eq hf']
    exact .ok ((sameJson_body_iff hf hf').mpr ⟨h, Product.forall₂_fields hr.product hf⟩)

/-- Whether the text of the product of a receipt, if there is one, can be read off. -/
def IsSeparated (r : Receipt) : Prop := ∀ p ∈ r.product, p.IsSeparated

theorem fieldsIn?_eq (hr : r.IsPlain) (hs : s.IsPlain) (hr' : r.IsSeparated) (hs' : s.IsSeparated)
    (h : r.productText? = s.productText?) :
    Product.fieldsIn? r.product = Product.fieldsIn? s.product := by
  unfold productText? at h
  cases hp : r.product with
  | none =>
    cases hq : s.product with
    | none => rfl
    | some q =>
      rw [hp, hq] at h
      cases h
  | some p =>
    cases hq : s.product with
    | none =>
      rw [hp, hq] at h
      cases h
    | some q =>
      rw [hp, hq] at h
      exact Product.fieldsIn?_eq (hr.product p hp) (hs.product q hq) (hr' p hp) (hs' q hq)
        (Option.some.inj h)

/-- Two receipts share a key when they agree in the rest and in the text of the product, unless their
identities collide. So a key keeps different bodies apart exactly when the texts of the products do,
and these do when they can be read off. -/
theorem key_sound_iff (hr : r.IsPlain) (hs : s.IsPlain) (hk : RequestKey.receipt r = .ok k)
    (hl : RequestKey.receipt s = .ok l) :
    (k = l ↔ SameRest r s ∧ r.productText? = s.productText? ∨
      (Operation.postReceipt r).Collides (.postReceipt s)) ∧
    ((k = l → SameBody (Operation.receiptBody r) (Operation.receiptBody s) ∨
        (Operation.postReceipt r).Collides (.postReceipt s)) ↔
      (SameRest r s → r.productText? = s.productText? →
        SameBody (Operation.receiptBody r) (Operation.receiptBody s))) ∧
    (r.IsSeparated → s.IsSeparated → k = l →
      SameBody (Operation.receiptBody r) (Operation.receiptBody s) ∨
        (Operation.postReceipt r).Collides (.postReceipt s)) := by
  have hkeys := key_eq_iff hr hs hk hl
  refine ⟨hkeys, ⟨fun hsound hrest htext => ?_, fun halike hkey => ?_⟩, fun hr' hs' hkey => ?_⟩
  · rcases hsound (hkeys.mpr (.inl ⟨hrest, htext⟩)) with hbody | hcollides
    · exact hbody
    · exact absurd hcollides (not_collides hr hs hk hl hrest htext)
  · rcases hkeys.mp hkey with ⟨hrest, htext⟩ | hcollides
    · exact .inl (halike hrest htext)
    · exact .inr hcollides
  · rcases hkeys.mp hkey with ⟨hrest, htext⟩ | hcollides
    · exact .inl (sameBody_of_fields hr hrest (fieldsIn?_eq hr hs hr' hs' htext))
    · exact .inr hcollides

/-! ## Two products with one text -/

def timed (normal intro : String) : Product where
  identifier := .text "pro".toText
  price := .finite false 499 (-2)
  currencyCode := .text "EUR".toText
  paymentMode := .none
  normalDuration := .text normal.toText
  introDuration := .text intro.toText
  introKind := .introPrice
  subscriptionGroup := .null
  discounts := []

def withDurations (normal intro : String) : Receipt where
  fetchToken := .text "AAEC".toText
  appUserId := .text "me".toText
  isRestore := .bool false
  observerMode := .bool false
  product := some (timed normal intro)
  presentedOfferingIdentifier := .null
  attributes := none

theorem isPlain_withDurations (normal intro : String) : (withDurations normal intro).IsPlain := by
  have htext (s : String) : (Value.text s.toText).IsIdentifier := ⟨_, rfl, Text.isClean_toText s⟩
  constructor
  · exact (htext _).isPlain
  · exact (htext _).isPlain
  · exact .bool false
  · exact .bool false
  · exact .null
  · exact nofun
  · rintro _ ⟨⟩
    exact ⟨htext _, .inr (htext _), .inr (htext _), .inr (htext _), .inl rfl, nofun⟩

theorem exists_key_withDurations (normal intro : String) :
    ∃ k, RequestKey.receipt (withDurations normal intro) = .ok k := by
  have hplain := isPlain_withDurations normal intro
  have hcanonical := (isPlain_identity hplain).isCanonical rfl
  exact ⟨_, (key_eq_make hplain).trans (make_eq hcanonical)⟩

theorem normalDuration_of_sameBody {normal intro normal' intro' : String}
    (h : SameBody (Operation.receiptBody (withDurations normal intro))
      (Operation.receiptBody (withDurations normal' intro'))) :
    Option.Rel SameJson (Product.filled? (.text normal.toText))
      (Product.filled? (.text normal'.toText)) := by
  have hfields (normal intro : String) : Product.fieldsIn? (withDurations normal intro).product =
      some ((timed normal intro).allFields (.ofDecimal false 499 (-2)) []) :=
    Product.fieldsIn?_some_iff.mpr ⟨_, rfl, [], rfl, rfl⟩
  rw [body_eq (hfields normal intro), body_eq (hfields normal' intro')] at h
  cases h with
  | ok h =>
    obtain ⟨-, h⟩ := (sameJson_body_iff (hfields normal intro) (hfields normal' intro')).mp h
    simp only [Product.allFields, List.cons_append, List.nil_append, List.forall₂_cons] at h
    exact h.2.2.2.2.1

/-- Keys keep receipts apart whose products have texts without a dash, unless they collide. -/
theorem key_tells_durations : ∃ k l, RequestKey.receipt (withDurations "month" "week") = .ok k ∧
    RequestKey.receipt (withDurations "year" "week") = .ok l ∧
    (k = l → (Operation.postReceipt (withDurations "month" "week")).Collides
      (.postReceipt (withDurations "year" "week"))) := by
  have hseparated (normal : String) (h : dash ∉ normal.toText) :
      (withDurations normal "week").IsSeparated := by
    have hpro : dash ∉ "pro".toText := by decide
    have heur : dash ∉ "EUR".toText := by decide
    have hweek : dash ∉ "week".toText := by decide
    rintro _ ⟨⟩
    exact ⟨hpro, heur, h, hweek, List.not_mem_nil, nofun⟩
  have hr := isPlain_withDurations "month" "week"
  have hs := isPlain_withDurations "year" "week"
  obtain ⟨k, hk⟩ := exists_key_withDurations "month" "week"
  obtain ⟨l, hl⟩ := exists_key_withDurations "year" "week"
  refine ⟨k, l, hk, hl, fun hkey => ?_⟩
  have hsound := (key_sound_iff hr hs hk hl).2.2 (hseparated "month" (by decide))
    (hseparated "year" (by decide)) hkey
  rcases hsound with hbody | hcollides
  · have hnormal : Option.Rel SameJson (some (.text "month".toText)) (some (.text "year".toText)) :=
      normalDuration_of_sameBody hbody
    exact absurd (sameJson_text_iff.mp (Option.rel_some_some.mp hnormal)) (by decide)
  · exact hcollides

/-- A dash inside a duration reads like one between two durations: these receipts share a key though
neither their bodies are the same nor their identities collide. -/
theorem key_confuses_durations : ∃ k, RequestKey.receipt (withDurations "one-off" "week") = .ok k ∧
    RequestKey.receipt (withDurations "one" "off-week") = .ok k ∧
    ¬SameBody (Operation.receiptBody (withDurations "one-off" "week"))
      (Operation.receiptBody (withDurations "one" "off-week")) ∧
    ¬(Operation.postReceipt (withDurations "one-off" "week")).Collides
      (.postReceipt (withDurations "one" "off-week")) := by
  have hr := isPlain_withDurations "one-off" "week"
  have hs := isPlain_withDurations "one" "off-week"
  have hrest : SameRest (withDurations "one-off" "week") (withDurations "one" "off-week") :=
    ⟨hr.fetchToken.sameJson_refl, hr.appUserId.sameJson_refl, .bool false, .bool false, .null, .none⟩
  have htext : (withDurations "one-off" "week").productText? =
      (withDurations "one" "off-week").productText? := by
    decide
  obtain ⟨k, hk⟩ := exists_key_withDurations "one-off" "week"
  obtain ⟨l, hl⟩ := exists_key_withDurations "one" "off-week"
  obtain rfl := (key_eq_iff hr hs hk hl).mpr (.inl ⟨hrest, htext⟩)
  refine ⟨k, hk, hl, fun hbody => ?_, not_collides hr hs hk hl hrest htext⟩
  have hnormal : Option.Rel SameJson (some (.text "one-off".toText)) (some (.text "one".toText)) :=
    normalDuration_of_sameBody hbody
  exact absurd (sameJson_text_iff.mp (Option.rel_some_some.mp hnormal)) (by decide)

end Receipt

end SubscriptionClient
