import SubscriptionClient.Proofs.Domain.Uuids
import SubscriptionClient.Proofs.Response.Precedence

/-!
# Signed offers

Of the offers that a body lists only the first decides on the answer, but all must be mappings. In
it an error counts before a signature, and every part of a signature stands for itself. A body that
lists no offers, an offer without a signature and an error are told, which needs that they can be
written.
-/

namespace SubscriptionClient

/-! ## Parts of a signature -/

/-- Whether each part of a signature is what its own member holds, if that is of the right kind. -/
structure SignedOffer.IsReadFrom (signed : SignedOffer) (offer data : List (Value × Value)) :
    Prop where
  signature_iff : ∀ t, signed.signature = some t ↔
    Value.member? "signature" data = some (.text t)
  nonce_iff : ∀ u, signed.nonce = some u ↔
    ∃ t, Value.member? "nonce" data = some (.text t) ∧ u.IsSpelledBy t
  timestamp_iff : ∀ k, signed.timestamp = some k ↔
    Value.member? "timestamp" data = some (.int k)
  keyId_iff : ∀ t, signed.keyId = some t ↔ Value.member? "key_id" offer = some (.text t)

theorem SignedOffer.exists_isReadFrom (offer data : List (Value × Value)) :
    ∃ signed, decode (Value.member? "key_id" offer) (.map data) = .ok signed ∧
      signed.IsReadFrom offer data := by
  refine ⟨_, decode_map _ data, fun t => ?_, fun u => ?_, fun k => ?_, fun t => ?_⟩
  · exact textOf?_eq_some_iff
  · simp only [Option.bind_eq_some_iff, textOf?_eq_some_iff, Uuid.read?_eq_some_iff]
  · exact integerOf?_eq_some_iff
  · exact textOf?_eq_some_iff

namespace Response

variable {n : Int} {body : Value} {offer : List (Value × Value)}
  {offers : List (List (Value × Value))}

/-! ## The first offer -/

/-- What an offer decides on the answer. -/
structure IsSettledBy (a : Attempt SignedOffer) (n : Int) (offer : List (Value × Value)) :
    Prop where
  /-- An error counts beside a signature as well. -/
  denied : ∀ error, Value.member? "signature_error" offer = some (.map error) →
    a = .error (.client ⟨.backend (refusal (.map error) (.int n) none), []⟩)
  signed : (∀ error, Value.member? "signature_error" offer ≠ some (.map error)) →
    ∀ data, Value.member? "signature_data" offer = some (.map data) →
    ∃ signed, a = .ok signed ∧ signed.IsReadFrom offer data
  unsigned : (∀ error, Value.member? "signature_error" offer ≠ some (.map error)) →
    (∀ data, Value.member? "signature_data" offer ≠ some (.map data)) →
    a = .error (.client (.unexpected .offerUnsigned none none))

theorem isSettledBy_signedOffer (n : Int) (h : (Value.map offer).IsJson) (ht : TellsOffer offer) :
    IsSettledBy (signedOffer (.int n) offer) n offer := by
  rw [signedOffer]
  -- an error, a signature and no error, neither of them
  split
  next error herror =>
    rw [refuse_eq (h.of_member? herror).isTextKeyed (ht.denied error herror)]
    constructor <;> simp [herror]
  next data hdata hno =>
    obtain ⟨signed, hsigned, hread⟩ := SignedOffer.exists_isReadFrom offer data
    rw [hsigned]
    refine ⟨fun error herror => (hno error herror).elim, fun _ data' hdata' => ?_,
      fun _ hnone => (hnone data hdata).elim⟩
    cases hdata.symm.trans hdata'
    exact ⟨signed, rfl, hread⟩
  next hno hnone =>
    rw [note_eq (isJson_getD_member? h "signature_data").isTextKeyed
      ((tellsOffer_iff_of_unsigned hno hnone).mp ht)]
    exact ⟨fun error herror => (hno error herror).elim,
      fun _ data hdata => (hnone data hdata).elim, fun _ _ => rfl⟩

/-! ## The list of offers -/

/-- Whether a body lists these offers, and lists mappings only. -/
def ListsOffers (body : Value) (offers : List (List (Value × Value))) : Prop :=
  ∃ es, body = .map es ∧ Value.member? "offers" es = some (.list (offers.map .map))

theorem listsOffers_iff : ListsOffers body offers ↔ offerList? body = some offers := by
  rw [offerList?_eq_some_iff]
  constructor
  · rintro ⟨es, rfl, hoffers⟩
    exact hoffers
  · intro hoffers
    cases body with
    | map es => exact ⟨es, rfl, hoffers⟩
    | null | bool | int | float | text | bytes | decimal | dateTime | list => cases hoffers

/-- How the answer to a request for a signature is decided, in this order. -/
structure SigningOrder (n : Int) (body : Value) (a : Attempt SignedOffer) : Prop where
  empty : body = .null → a = .error (.client (.unexpected .offerEmpty none none))
  unreadable : body ≠ .null → (¬∃ offers, ListsOffers body offers) →
    ∃ extra, a = .error (.client (.unexpected .offerUnreadable (some extra) none))
  noOffers : ListsOffers body [] → a = .error (.client (.unexpected .offerListEmpty none none))
  first : ∀ offer offers, ListsOffers body (offer :: offers) → IsSettledBy a n offer

theorem signingOrder (h : body.IsJson) (hn : n < 300)
    (ht : Policy.offerSigning.Told n body none) :
    SigningOrder n body (offerSigning ⟨.int n, body, none⟩) where
  empty := by
    rintro rfl
    exact offerSigning_of_null hn
  unreadable := by
    intro hnull hno
    have hnone : offerList? body = none := by
      refine Option.eq_none_iff_forall_ne_some.mpr fun offers hoffers => ?_
      exact hno ⟨offers, listsOffers_iff.mpr hoffers⟩
    exact offerSigning_of_unlisted h hn ((told_of_unlisted hn (by simp [hnone])).mp ht) hnull hnone
  noOffers := by
    intro ho
    have hnil := listsOffers_iff.mp ho
    exact offerSigning_of_nil h hn ((told_of_unlisted hn (by simp [hnil])).mp ht) hnil
  first := by
    intro offer offers ho
    have hlist := listsOffers_iff.mp ho
    rw [offerSigning_of_cons hn hlist]
    exact isSettledBy_signedOffer n (isJson_of_offerList? h hlist offer List.mem_cons_self)
      ((told_of_cons hn hlist).mp ht)

/-- Offers are looked at in order, and other offers after the first change nothing. -/
theorem first_offer_decides (h : body.IsJson) (hn : n < 300) :
    Policy.offerSigning.Ensures n body none (SigningOrder n body)
        (offerSigning ⟨.int n, body, none⟩) ∧
      ∀ offer offers offers' body', ListsOffers body (offer :: offers) →
        ListsOffers body' (offer :: offers') →
        offerSigning ⟨.int n, body', none⟩ = offerSigning ⟨.int n, body, none⟩ := by
  refine ⟨⟨signingOrder h hn, (governs_offerSigning h).unwritten⟩, ?_⟩
  intro offer offers offers' body' ho ho'
  rw [offerSigning_of_cons hn (listsOffers_iff.mp ho),
    offerSigning_of_cons hn (listsOffers_iff.mp ho')]

/-- A nonce in braces, without hyphens. -/
def bracedNonce : Text := "\x7b12345678123456781234567812345678\x7d".toText

/-- A signature of which only the nonce can be used. -/
def nonceOnly : Value :=
  .record [("nonce", .text bracedNonce), ("signature", .list []), ("timestamp", .bool true)]

theorem isJson_nonceOnly : nonceOnly.IsJson :=
  Value.isJson_record (by decide) (by simpa using ⟨.text _, .list nofun, .bool true⟩)

def partlySigned : Value :=
  .record [("key_id", .int 7), ("signature_data", nonceOnly),
    ("signature_error", .text "none".toText)]

theorem isJson_partlySigned : partlySigned.IsJson :=
  Value.isJson_record (by decide) (by simpa using ⟨.int 7, isJson_nonceOnly, .text _⟩)

/-- A body that lists the offer before others. -/
def partlySignedFirst (others : List Value) : Value :=
  .record [("offers", .list (partlySigned :: others))]

theorem partly_signed_offer_decides :
    (partlySignedFirst []).IsJson ∧ (200 : Int) < 300 ∧ ∃ signed,
      offerSigning ⟨.int 200, partlySignedFirst [], none⟩ = .ok signed ∧
      offerSigning ⟨.int 200, partlySignedFirst [.map deniedOffer], none⟩ = .ok signed ∧
      (∃ u, signed.nonce = some u) ∧ signed.timestamp = none := by
  have hjson : (partlySignedFirst []).IsJson :=
    isJson_singleton "offers" (.list (by simpa using isJson_partlySigned))
  obtain ⟨horder, hlater⟩ := first_offer_decides hjson (show (200 : Int) < 300 by decide)
  have htold : Policy.offerSigning.Told 200 (partlySignedFirst []) none :=
    Policy.told_of_isWritable _ (by decide) (by decide) (by simp)
  have halone : ListsOffers (partlySignedFirst []) [partlySigned.members] := ⟨_, rfl, rfl⟩
  have hfirst : ListsOffers (partlySignedFirst [.map deniedOffer])
      [partlySigned.members, deniedOffer] := ⟨_, rfl, rfl⟩
  obtain ⟨signed, hsigned, hread⟩ :=
    ((horder.told htold).first _ _ halone).signed (fun error herror => by cases herror) _ rfl
  have hnonce : ∃ u, signed.nonce = some u := by
    have hbraced : (Uuid.read? bracedNonce).isSome = true := by decide +kernel
    obtain ⟨u, hu⟩ := Option.isSome_iff_exists.mp hbraced
    exact ⟨u, (hread.nonce_iff u).mpr ⟨bracedNonce, rfl, Uuid.read?_eq_some_iff.mp hu⟩⟩
  have htimestamp : signed.timestamp = none := by
    refine Option.eq_none_iff_forall_ne_some.mpr fun k hk => ?_
    cases (hread.timestamp_iff k).mp hk
  have hother := (hlater _ _ _ _ halone hfirst).trans hsigned
  exact ⟨hjson, by decide, signed, hsigned, hother, hnonce, htimestamp⟩

/-- A body in which there is no list of offers, and an integer of too many digits. -/
def overlongOffers : Value :=
  .record [("offers", .text "no".toText), ("x", .int Numeral.huge)]

theorem isJson_overlongOffers : overlongOffers.IsJson :=
  Value.isJson_record (by decide) (by simpa using ⟨.text _, .int _⟩)

/-- Offers that are no list are not told beside an integer of too many digits. -/
theorem overlong_offers_are_lost :
    overlongOffers.IsJson ∧ overlongOffers ≠ .null ∧
      (¬∃ offers, ListsOffers overlongOffers offers) ∧
      offerSigning ⟨.int 200, overlongOffers, none⟩ = .unwritten := by
  have hnone : offerList? overlongOffers = none := rfl
  have hx : Value.member? "x" overlongOffers.members = some (.int Numeral.huge) := rfl
  refine ⟨isJson_overlongOffers, nofun, ?_, ?_⟩
  · rintro ⟨offers, hoffers⟩
    cases hnone.symm.trans (listsOffers_iff.mp hoffers)
  · refine (governs_offerSigning isJson_overlongOffers).unwritten fun ht => ?_
    have hw := (told_of_unlisted (by decide) (by simp [hnone])).mp ht
    rw [Value.isWritable_of_huge hx] at hw
    cases hw

end Response

end SubscriptionClient
