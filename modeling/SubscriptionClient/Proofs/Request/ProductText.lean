import SubscriptionClient.Proofs.Number.DecimalText
import SubscriptionClient.Proofs.Request.ReceiptFields
import SubscriptionClient.Proofs.Value.Describing
import SubscriptionClient.Proofs.Value.Plain

/-!
# The text of a product

The parts that identify a product stand in one text with dashes between them. When no part that is
given as a text has a dash itself, the parts can be read off, and with them all that a receipt says
about the product.
-/

namespace SubscriptionClient

open Text Value

def dash : CodePoint := CodePoint.ofChar '-'

/-- Whether a text ends or goes on with a dash. -/
def EndsPart (t : Text) : Prop := EndsRun (fun c => c != dash) t

variable {r s : Text}

theorem endsPart_nil : EndsPart [] := endsRun_nil

theorem endsPart_cons (t : Text) : EndsPart (dash :: t) := endsRun_cons (by decide) t

theorem EndsPart.eq_dash (h : EndsPart r) {c : CodePoint} (hc : r.head? = some c) : c = dash := by
  have hne := h c hc
  rwa [bne_eq_false_iff_eq] at hne

theorem EndsPart.endsNumeral (h : EndsPart r) : EndsNumeral r := by
  intro c hc
  rw [h.eq_dash hc]
  decide

theorem EndsPart.endsDecimal (h : EndsPart r) : Decimal.EndsDecimal r := by
  intro c hc
  rw [h.eq_dash hc]
  decide

theorem part_append_inj {t u : Text} (ht : dash ∉ t) (hu : dash ∉ u) (hr : EndsPart r)
    (hs : EndsPart s) (h : t ++ r = u ++ s) : t = u ∧ r = s := by
  have hne {t : Text} (ht : dash ∉ t) : ∀ c ∈ t, (c != dash) = true := by
    intro c hc
    rw [bne_iff_ne]
    rintro rfl
    exact ht hc
  exact run_append_inj (hne ht) (hne hu) hr hs h

theorem PaymentMode.code_inj {m n : PaymentMode} (h : m.code = n.code) : m = n := by
  cases m <;> cases n <;> first | rfl | exact absurd h (by decide)

theorem IntroKind.word_inj {k l : IntroKind} (h : k.word.toText = l.word.toText) : k = l := by
  cases k <;> cases l <;> first | rfl | exact absurd h (by decide)

theorem IntroKind.dash_notMem_word (k : IntroKind) : dash ∉ k.word.toText := by
  cases k <;> decide

theorem PaymentMode.append_inj {m n : PaymentMode} (hr : EndsPart r) (hs : EndsPart s)
    (h : Text.ofInt m.code ++ r = Text.ofInt n.code ++ s) : m = n ∧ r = s := by
  have hcode := ofInt_append_inj hr.endsNumeral hs.endsNumeral h
  rw [hcode] at h
  exact ⟨code_inj hcode, List.append_cancel_left h⟩

/-! ## Discounts -/

namespace Discount

variable {d e : Discount} {ds es : List Discount}

/-- Whether the offer of a discount can be told apart inside a text: it has no dash, and it is not
spelled like a missing one. -/
structure IsSeparated (d : Discount) : Prop where
  isOptional : d.offerIdentifier.IsOptional
  dash_notMem : dash ∉ d.offerIdentifier.display
  ne_none : d.offerIdentifier ≠ .text "None".toText

theorem offerIdentifier_eq (hd : d.IsSeparated) (he : e.IsSeparated)
    (h : d.offerIdentifier.display = e.offerIdentifier.display) :
    d.offerIdentifier = e.offerIdentifier := by
  have hnull : display .null = "None".toText := rfl
  rcases hd.isOptional with hd' | ⟨t, hd', -⟩ <;> rcases he.isOptional with he' | ⟨u, he', -⟩ <;>
    rw [hd', he'] at h ⊢
  · exact absurd (by rw [he', ← hnull, h]; rfl) he.ne_none
  · exact absurd (by rw [hd', ← hnull, ← h]; rfl) hd.ne_none
  · exact congrArg Value.text h

/-- The text of a discount whose offer can be shown. -/
def keyText (d : Discount) : Text :=
  d.offerIdentifier.display ++ dash :: (d.price.text ++ dash :: Text.ofInt d.paymentMode.code)

theorem cacheKey?_eq (h : d.offerIdentifier.IsOptional) : d.cacheKey? = some d.keyText := by
  have hdisplay : d.offerIdentifier.display? = some d.offerIdentifier.display := by
    rcases h with hd | ⟨t, hd, -⟩ <;> rw [hd] <;> rfl
  rw [cacheKey?, hdisplay, Option.map_some, List.append_assoc, List.append_assoc, List.append_assoc]
  rfl

theorem keyText_append_inj (hd : d.IsSeparated) (he : e.IsSeparated) (hr : EndsPart r)
    (hs : EndsPart s) (h : d.keyText ++ r = e.keyText ++ s) :
    d.toValue? = e.toValue? ∧ r = s := by
  simp only [keyText, List.append_assoc, List.cons_append] at h
  obtain ⟨hoffer, h⟩ := part_append_inj hd.dash_notMem he.dash_notMem (endsPart_cons _)
    (endsPart_cons _) h
  obtain ⟨hprice, h⟩ := Decimal.text_append_inj (endsPart_cons _).endsDecimal
    (endsPart_cons _).endsDecimal (List.cons.inj h).2
  obtain ⟨hmode, hrs⟩ := PaymentMode.append_inj hr hs (List.cons.inj h).2
  refine ⟨?_, hrs⟩
  rw [toValue?, toValue?, hprice, hmode, offerIdentifier_eq hd he hoffer]

/-- The discounts at the end of a text, a dash before each. -/
def keysText (ds : List Discount) : Text := ds.flatMap fun d => dash :: d.keyText

theorem keysText_cons (d : Discount) (ds : List Discount) :
    keysText (d :: ds) = dash :: (d.keyText ++ keysText ds) := by
  rw [keysText, List.flatMap_cons]
  rfl

theorem endsPart_keysText (ds : List Discount) : EndsPart (keysText ds) := by
  cases ds with
  | nil => exact endsPart_nil
  | cons d ds =>
    rw [keysText_cons]
    exact endsPart_cons _

theorem mapM_toValue?_eq (hd : ∀ d ∈ ds, d.IsSeparated) (he : ∀ e ∈ es, e.IsSeparated)
    (h : keysText ds = keysText es) : ds.mapM toValue? = es.mapM toValue? := by
  induction ds generalizing es with
  | nil =>
    cases es with
    | nil => rfl
    | cons e es =>
      rw [keysText_cons] at h
      cases h
  | cons d ds ih =>
    cases es with
    | nil =>
      rw [keysText_cons] at h
      cases h
    | cons e es =>
      rw [keysText_cons, keysText_cons] at h
      obtain ⟨hvalue, hrest⟩ := keyText_append_inj (hd d List.mem_cons_self)
        (he e List.mem_cons_self) (endsPart_keysText ds) (endsPart_keysText es) (List.cons.inj h).2
      have htail := ih (fun d' h' => hd d' (List.mem_cons_of_mem d h'))
        (fun e' h' => he e' (List.mem_cons_of_mem e h')) hrest
      rw [List.mapM_cons, List.mapM_cons, hvalue, htail]

end Discount

/-! ## Products -/

namespace Product

variable {p q : Product} {v w : Value}

/-- The part that a field gives, which is empty when the field is missing. -/
def textIn : Value → Text
  | .text t => t
  | _ => []

/-- Whether the fields of a product that are declared as texts are texts, or missing where they may
be. -/
structure IsTyped (p : Product) : Prop where
  identifier : p.identifier.IsIdentifier
  currencyCode : p.currencyCode.IsOptional
  normalDuration : p.normalDuration.IsOptional
  introDuration : p.introDuration.IsOptional
  subscriptionGroup : p.subscriptionGroup.IsOptional
  offers : ∀ d ∈ p.discounts, d.offerIdentifier.IsOptional

/-- Whether no text of a product has a dash, and no offer is spelled like a missing one. -/
structure IsSeparated (p : Product) : Prop where
  identifier : dash ∉ textIn p.identifier
  currencyCode : dash ∉ textIn p.currencyCode
  normalDuration : dash ∉ textIn p.normalDuration
  introDuration : dash ∉ textIn p.introDuration
  subscriptionGroup : dash ∉ textIn p.subscriptionGroup
  offers : ∀ d ∈ p.discounts, d.IsSeparated

/-- The text that identifies a product whose fields are texts. -/
def keyText (p : Product) : Text :=
  List.intercalate "-".toText
    ([textIn p.identifier, p.price.text, textIn p.currencyCode, Text.ofInt p.paymentMode.code,
      textIn p.normalDuration, textIn p.introDuration, p.introKind.word.toText,
      textIn p.subscriptionGroup] ++ p.discounts.map Discount.keyText)

theorem optionalPart_eq (h : v.IsOptional) : optionalPart v = .ok (textIn v) := by
  rcases h with rfl | ⟨t, rfl, -⟩
  · rfl
  · cases t <;> rfl

theorem cacheKey?_eq (h : p.IsTyped) : p.cacheKey? = .ok p.keyText := by
  have hidentifier : part p.identifier = .ok (textIn p.identifier) := by
    obtain ⟨t, ht, -⟩ := h.identifier
    rw [ht]
    rfl
  have hdiscounts : p.discounts.mapM (fun d => Misuse.ofWritten d.cacheKey?) =
      .ok (p.discounts.map Discount.keyText) :=
    mapM_eq_ok fun d hd => by rw [Discount.cacheKey?_eq (h.offers d hd), Misuse.ofWritten]
  rw [cacheKey?, keyParts?, hdiscounts, hidentifier, optionalPart_eq h.currencyCode,
    optionalPart_eq h.normalDuration, optionalPart_eq h.introDuration,
    optionalPart_eq h.subscriptionGroup]
  rfl

theorem keyText_eq (p : Product) : p.keyText =
    textIn p.identifier ++ dash :: (p.price.text ++ dash :: (textIn p.currencyCode ++ dash ::
      (Text.ofInt p.paymentMode.code ++ dash :: (textIn p.normalDuration ++ dash ::
        (textIn p.introDuration ++ dash :: (p.introKind.word.toText ++ dash ::
          (textIn p.subscriptionGroup ++ Discount.keysText p.discounts))))))) := by
  have hsep : "-".toText = [dash] := rfl
  rw [keyText, hsep, List.cons_append, intercalate_cons]
  simp only [List.cons_append, List.nil_append, List.flatMap_cons, List.flatMap_map,
    Discount.keysText]

theorem isClean_keyText (h : p.IsTyped) : p.keyText.IsClean := by
  have hoptional {v : Value} (hv : v.IsOptional) : (textIn v).IsClean := by
    rcases hv with rfl | ⟨t, rfl, ht⟩
    · exact .nil
    · exact ht
  have hdisplay {v : Value} (hv : v.IsOptional) : v.display.IsClean := by
    rcases hv with rfl | ⟨t, rfl, ht⟩
    · exact Text.isClean_toText "None"
    · exact ht
  have hdiscount (d : Discount) (hd : d ∈ p.discounts) : d.keyText.IsClean := by
    have hprice := isClean_of_isAscii (Decimal.isAscii_text d.price)
    have hmode := isClean_of_isAscii (isAscii_ofInt d.paymentMode.code)
    rw [Discount.keyText]
    exact (hdisplay (h.offers d hd)).append_cons (by decide) (hprice.append_cons (by decide) hmode)
  apply isClean_intercalate (by decide)
  simp only [List.cons_append, List.nil_append, List.forall_mem_cons, List.forall_mem_map]
  exact ⟨hoptional (.inr h.identifier), isClean_of_isAscii (Decimal.isAscii_text p.price),
    hoptional h.currencyCode, isClean_of_isAscii (isAscii_ofInt p.paymentMode.code),
    hoptional h.normalDuration, hoptional h.introDuration, Text.isClean_toText _,
    hoptional h.subscriptionGroup, hdiscount⟩

theorem filled?_eq (hv : v.IsOptional) (hw : w.IsOptional) (h : textIn v = textIn w) :
    filled? v = filled? w := by
  have hfilled {v : Value} (hv : v.IsOptional) :
      filled? v = if textIn v = [] then none else some (.text (textIn v)) := by
    rcases hv with rfl | ⟨t, rfl, -⟩
    · rfl
    · cases t <;> rfl
  rw [hfilled hv, hfilled hw, h]

/-- What a receipt says about a product is told by the text of the product. -/
theorem fieldsIn?_eq (hp : p.IsTyped) (hq : q.IsTyped) (hp' : p.IsSeparated) (hq' : q.IsSeparated)
    (h : p.keyText = q.keyText) : fieldsIn? (some p) = fieldsIn? (some q) := by
  rw [keyText_eq, keyText_eq] at h
  obtain ⟨hidentifier, h⟩ := part_append_inj hp'.identifier hq'.identifier (endsPart_cons _)
    (endsPart_cons _) h
  obtain ⟨hprice, h⟩ := Decimal.text_append_inj (endsPart_cons _).endsDecimal
    (endsPart_cons _).endsDecimal (List.cons.inj h).2
  obtain ⟨hcurrency, h⟩ := part_append_inj hp'.currencyCode hq'.currencyCode (endsPart_cons _)
    (endsPart_cons _) (List.cons.inj h).2
  obtain ⟨hmode, h⟩ := PaymentMode.append_inj (endsPart_cons _) (endsPart_cons _)
    (List.cons.inj h).2
  obtain ⟨hnormal, h⟩ := part_append_inj hp'.normalDuration hq'.normalDuration (endsPart_cons _)
    (endsPart_cons _) (List.cons.inj h).2
  obtain ⟨hintro, h⟩ := part_append_inj hp'.introDuration hq'.introDuration (endsPart_cons _)
    (endsPart_cons _) (List.cons.inj h).2
  obtain ⟨hword, h⟩ := part_append_inj p.introKind.dash_notMem_word q.introKind.dash_notMem_word
    (endsPart_cons _) (endsPart_cons _) (List.cons.inj h).2
  obtain ⟨hgroup, h⟩ := part_append_inj hp'.subscriptionGroup hq'.subscriptionGroup
    (Discount.endsPart_keysText _) (Discount.endsPart_keysText _) (List.cons.inj h).2
  have hid : p.identifier = q.identifier := by
    obtain ⟨t, ht, -⟩ := hp.identifier
    obtain ⟨u, hu, -⟩ := hq.identifier
    rw [ht, hu] at hidentifier ⊢
    exact congrArg Value.text hidentifier
  have hoffers := Discount.mapM_toValue?_eq hp'.offers hq'.offers h
  have hall (price : Double) (offers : List Value) :
      p.allFields price offers = q.allFields price offers := by
    rw [allFields, allFields, hid, hmode, IntroKind.word_inj hword,
      filled?_eq hp.currencyCode hq.currencyCode hcurrency,
      filled?_eq hp.normalDuration hq.normalDuration hnormal,
      filled?_eq hp.introDuration hq.introDuration hintro,
      filled?_eq hp.subscriptionGroup hq.subscriptionGroup hgroup]
  simp only [fieldsIn?, hprice, hoffers, hall]

end Product

end SubscriptionClient
