import SubscriptionClient.Proofs.Request.Paths
import SubscriptionClient.Proofs.Value.Canonical

/-!
# Keys and identities

A key falls into the method, the path and, for a post, the digest of the identity. So equal keys
have equal methods and paths, and their identities are the same JSON unless they are a collision of
the digest.
-/

namespace SubscriptionClient

namespace Sha256

theorem length_hexDigest (message : List UInt8) : (hexDigest message).length = 64 := by
  have hwords : (digest message).length = 32 := rfl
  rw [hexDigest, Hex.length_encode, hwords]

end Sha256

namespace RequestKey

open Value

variable {m n : Method} {p q : Text} {v w : Value}

theorem asciiBytes_inj {t u : Text} (ht : Text.IsAscii t) (hu : Text.IsAscii u)
    (h : asciiBytes t = asciiBytes u) : t = u := by
  refine eq_of_map_eq (fun c hc d hd hcd => ?_) h
  have hc' := ht c hc
  have hd' := hu d hd
  have hval := congrArg UInt8.toNat hcd
  rw [Utf8.toNat_ofNat_of_lt (by omega), Utf8.toNat_ofNat_of_lt (by omega)] at hval
  exact Fin.ext hval

/-- The canonical text of an identity, as bytes. -/
def payload (identity : Value) : List UInt8 := asciiBytes (Json.textOf identity)

theorem payload_eq_iff (hv : v.IsCanonical) (hw : w.IsCanonical) :
    payload v = payload w ↔ SameJson v w := by
  rw [← Json.textOf_eq_iff hv hw]
  constructor
  · intro h
    exact asciiBytes_inj (Json.isAscii_textOf hv) (Json.isAscii_textOf hw) h
  · intro h
    rw [payload, payload, h]

/-- Whether two identities have different payloads of one digest. -/
def Collision (v w : Value) : Prop :=
  payload v ≠ payload w ∧ Sha256.hexDigest (payload v) = Sha256.hexDigest (payload w)

theorem sameJson_or_collision (hv : v.IsCanonical) (hw : w.IsCanonical)
    (h : Sha256.hexDigest (payload v) = Sha256.hexDigest (payload w)) :
    SameJson v w ∨ Collision v w := by
  by_cases hp : payload v = payload w
  · exact .inl ((payload_eq_iff hv hw).mp hp)
  · exact .inr ⟨hp, h⟩

/-! ## Reading a key -/

def start (m : Method) (p : Text) : Text := m.word.toText ++ " ".toText ++ p

/-- The key of a method, a path and an identity that has a canonical text. -/
def keyOf (m : Method) (p : Text) (identity : Value) : Text :=
  if identity.isNull then start m p
  else start m p ++ "#".toText ++ Sha256.hexDigest (payload identity)

theorem make_eq (h : v.IsCanonical) : make m.word.toText p v = .ok (keyOf m p v) := by
  have hdigest : digest? v = .ok (Sha256.hexDigest (payload v)) := by
    rw [digest?, Json.write?_of_isCanonical h]
    rfl
  rw [make, keyOf, hdigest]
  split <;> rfl

/-- A plain identity with a key is canonical. -/
theorem isCanonical_of_make {key : Text} (h : v.IsPlain)
    (hkey : make m.word.toText p v = .ok key) : v.IsCanonical := by
  refine h.isCanonical ?_
  by_contra hw
  have hnull : v.isNull = false := by
    rw [← Bool.not_eq_true]
    intro hnull
    rw [eq_null_of_isNull hnull] at hw
    exact hw rfl
  rw [make, digest?, (Json.succeedsIff_write? Json.compact h.isTextKeyed).error hw, hnull] at hkey
  cases hkey

theorem exists_keyOf_eq (m : Method) (p : Text) (v : Value) :
    ∃ r, keyOf m p v = m.word.toText ++ r := by
  unfold keyOf start
  split
  · exact ⟨_, List.append_assoc _ _ _⟩
  · exact ⟨_, by rw [List.append_assoc, List.append_assoc, List.append_assoc]⟩

theorem method_eq_of_keyOf_eq (h : keyOf m p v = keyOf n q w) : m = n := by
  obtain ⟨r, hr⟩ := exists_keyOf_eq m p v
  obtain ⟨s, hs⟩ := exists_keyOf_eq n q w
  rw [hr, hs] at h
  cases m <;> cases n
  · rfl
  · exact absurd (List.cons.inj h).1 (by decide)
  · exact absurd (List.cons.inj h).1 (by decide)
  · rfl

theorem keyOf_null_eq_iff : keyOf m p .null = keyOf m q .null ↔ p = q := by
  constructor
  · intro h
    exact List.append_cancel_left h
  · intro h
    rw [h]

theorem keyOf_eq_iff (hv : v.isNull = false) (hw : w.isNull = false) :
    keyOf m p v = keyOf m q w ↔
      p = q ∧ Sha256.hexDigest (payload v) = Sha256.hexDigest (payload w) := by
  unfold keyOf
  rw [hv, hw, if_neg Bool.false_ne_true, if_neg Bool.false_ne_true]
  constructor
  · intro h
    have hlength : (Sha256.hexDigest (payload v)).length = (Sha256.hexDigest (payload w)).length := by
      rw [Sha256.length_hexDigest, Sha256.length_hexDigest]
    obtain ⟨hstart, hdigest⟩ := List.append_inj' h hlength
    exact ⟨List.append_cancel_left (List.append_cancel_right hstart), hdigest⟩
  · rintro ⟨rfl, h⟩
    rw [h]

end RequestKey

/-! ## The identity of an operation -/

namespace Operation

open RequestKey

def offerNames : List String :=
  ["app_user_id", "fetch_token", "offer_id", "product_id", "subscription_group"]

def eligibilityNames : List String := ["fetch_token", "product_identifiers"]

def attributionNames : List String := ["network", "data"]

/-- What the key of an operation holds besides the method and the path. -/
def identity? : Operation → Except Misuse Value
  | getCustomerInfo _ | getOfferings _ => .ok .null
  | postReceipt receipt => (productIdentity? receipt.product).map (receiptIdentity receipt)
  | logIn current new => .ok (.list [current, new])
  | createAlias _ new => .ok (.list [new])
  | signOffer offer =>
    .ok (.record
      [("app_user_id", offer.appUserId),
        ("fetch_token", offer.fetchToken),
        ("offer_id", offer.offerIdentifier),
        ("product_id", offer.productIdentifier),
        ("subscription_group", offer.subscriptionGroup)])
  | getIntroEligibility _ fetchToken products =>
    .ok (.record [("fetch_token", fetchToken), ("product_identifiers", .list products)])
  | postAttributes _ attributes => .ok attributes.toValue
  | postAttribution _ network data =>
    .ok (.record [("network", .int network.code), ("data", .map data)])

theorem key?_eq (o : Operation) {v : Value} (h : o.identity? = .ok v) :
    o.key? = make o.method.word.toText o.path v := by
  cases o with
  | postReceipt r =>
    rw [identity?] at h
    cases hp : productIdentity? r.product with
    | error m =>
      rw [hp] at h
      cases h
    | ok product =>
      rw [hp] at h
      obtain rfl := Except.ok.inj h
      show RequestKey.receipt r = _
      rw [RequestKey.receipt, hp]
      rfl
  | _ =>
    obtain rfl := Except.ok.inj h
    rfl

/-- Only a fetch has nothing besides the method and the path. -/
theorem isNull_identity (o : Operation) {v : Value} (h : o.identity? = .ok v) :
    v.isNull = decide (o.method = .get) := by
  cases o with
  | postReceipt r =>
    rw [identity?] at h
    cases hp : productIdentity? r.product with
    | error m =>
      rw [hp] at h
      cases h
    | ok product =>
      rw [hp] at h
      obtain rfl := Except.ok.inj h
      rfl
  | _ =>
    obtain rfl := Except.ok.inj h
    rfl

/-- Whether the identities of two operations have different payloads of one digest. -/
def Collides (o p : Operation) : Prop :=
  ∃ v w, o.identity? = .ok v ∧ p.identity? = .ok w ∧ Collision v w

end Operation

end SubscriptionClient
