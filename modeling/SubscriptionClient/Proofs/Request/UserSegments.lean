import SubscriptionClient.Backend.Call
import SubscriptionClient.Proofs.Request.Paths
import SubscriptionClient.Proofs.Text.Escapes

/-!
# Identifiers in paths

The identifier of a user fills exactly one segment of a path, whatever characters it has, and can be
read back from it. So no two users share an escaped form or a path. Only the empty text and texts
with a surrogate have no escaped form.
-/

namespace SubscriptionClient

/-- Whether a value can identify a user in a path: a text that is not empty and has no surrogate. -/
def Value.IsUserId (v : Value) : Prop :=
  ∃ t : Text, v = .text t ∧ t ≠ [] ∧ ∀ c ∈ t, c.isSurrogate = false

namespace Path

variable {v : Value} {t u e f suffix suffix' : Text}

theorem escapeUserId?_of_ne_nil (h : t ≠ []) : escapeUserId? (.text t) = Percent.escape? t := by
  cases t with
  | nil => exact absurd rfl h
  | cons => rfl

theorem escapeUserId?_eq_none_iff :
    escapeUserId? (.text t) = none ↔ t = [] ∨ ∃ c ∈ t, c.isSurrogate = true := by
  by_cases h : t = []
  · subst h
    exact ⟨fun _ => .inl rfl, fun _ => rfl⟩
  · rw [escapeUserId?_of_ne_nil h, Percent.escape?_eq_none_iff, or_iff_right h]

theorem exists_of_escapeUserId? (h : escapeUserId? v = some e) :
    ∃ t, v = .text t ∧ t ≠ [] ∧ Percent.escape? t = some e := by
  unfold escapeUserId? at h
  split at h
  · cases h
  · rename_i t hne
    exact ⟨t, rfl, hne, h⟩
  · cases h

theorem escapeUserId?_isSome_iff : (∃ e, escapeUserId? v = some e) ↔ v.IsUserId := by
  constructor
  · rintro ⟨e, he⟩
    obtain ⟨t, rfl, hne, -⟩ := exists_of_escapeUserId? he
    refine ⟨t, rfl, hne, fun c hc => Bool.eq_false_iff.mpr fun hsurrogate => ?_⟩
    rw [escapeUserId?_eq_none_iff.mpr (.inr ⟨c, hc, hsurrogate⟩)] at he
    cases he
  · rintro ⟨t, rfl, hne, hclean⟩
    rw [← Option.ne_none_iff_exists', Ne, escapeUserId?_eq_none_iff]
    rintro (hnil | ⟨c, hc, hsurrogate⟩)
    · exact hne hnil
    · rw [hclean c hc] at hsurrogate
      cases hsurrogate

/-! ## Segments -/

/-- What comes before and after the identifier in a path depends on the suffix only. -/
theorem exists_subscriber_eq (suffix : Text) : ∃ r, EndsRun (· != Endpoint.slash) r ∧
    ∀ e, subscriber e suffix = "/subscribers/".toText ++ (e ++ r) := by
  have hbegin : subscribers ++ "/".toText = "/subscribers/".toText := rfl
  by_cases h : suffix = []
  · refine ⟨[], endsRun_nil, fun e => ?_⟩
    rw [subscriber, if_pos h, hbegin, List.append_nil]
  · refine ⟨Endpoint.slash :: suffix, endsRun_cons (by decide) suffix, fun e => ?_⟩
    rw [subscriber, if_neg h, hbegin, List.append_assoc, List.append_assoc]
    rfl

theorem eq_of_subscriber_eq (he : Endpoint.slash ∉ e) (hf : Endpoint.slash ∉ f)
    (h : subscriber e suffix = subscriber f suffix') : e = f := by
  obtain ⟨r, hr, hsubscriber⟩ := exists_subscriber_eq suffix
  obtain ⟨s, hs, hsubscriber'⟩ := exists_subscriber_eq suffix'
  rw [hsubscriber, hsubscriber'] at h
  refine (run_append_inj ?_ ?_ hr hs (List.append_cancel_left h)).1
  · exact fun c hc => bne_iff_ne.mpr (ne_of_mem_of_not_mem hc he)
  · exact fun c hc => bne_iff_ne.mpr (ne_of_mem_of_not_mem hc hf)

theorem filter_subscriber (h : ∀ c ∈ e, c.breaksSegment = false) (suffix : Text) :
    (subscriber e suffix).filter CodePoint.breaksSegment =
      (subscriber [] suffix).filter CodePoint.breaksSegment := by
  obtain ⟨r, -, hsubscriber⟩ := exists_subscriber_eq suffix
  have hnone : e.filter CodePoint.breaksSegment = [] :=
    List.filter_eq_nil_iff.mpr fun c hc => by simp [h c hc]
  rw [hsubscriber, hsubscriber, List.filter_append, List.filter_append, List.filter_append, hnone,
    List.nil_append, List.nil_append]

/-- Whether `e` stands for the identifier `t` in paths. -/
structure IsSegmentOf (t e : Text) : Prop where
  ne_nil : e ≠ []
  isEscaped : Percent.IsEscaped e
  /-- A path has no slash, mark or blank, and nothing beyond ASCII, besides those of its fixed
  parts. -/
  fixed (suffix : Text) : (subscriber e suffix).filter CodePoint.breaksSegment =
    (subscriber [] suffix).filter CodePoint.breaksSegment
  read_back : Percent.unescape? e = some t
  /-- Whoever has the escaped form, or a path with it, is the same user. -/
  own {u f : Text} : escapeUserId? (.text u) = some f →
    (f = e ∨ ∃ suffix suffix', subscriber f suffix = subscriber e suffix') → u = t

theorem slash_notMem_of_isEscaped (h : Percent.IsEscaped e) : Endpoint.slash ∉ e := fun hmem => by
  have hslash := h.breaksSegment_eq _ hmem
  exact absurd hslash (by decide)

theorem isSegmentOf_of_escape? (ht : t ≠ []) (h : Percent.escape? t = some e) :
    IsSegmentOf t e where
  ne_nil := Percent.ne_nil_of_escape? h ht
  isEscaped := Percent.isEscaped_of_escape? h
  fixed := filter_subscriber (Percent.isEscaped_of_escape? h).breaksSegment_eq
  read_back := Percent.unescape?_of_escape? h
  own := by
    intro u f hu hshared
    obtain ⟨_, ⟨⟩, -, hf⟩ := exists_of_escapeUserId? hu
    have heq : f = e := by
      rcases hshared with heq | ⟨suffix, suffix', hpath⟩
      · exact heq
      · exact eq_of_subscriber_eq (slash_notMem_of_isEscaped (Percent.isEscaped_of_escape? hf))
          (slash_notMem_of_isEscaped (Percent.isEscaped_of_escape? h)) hpath
    exact Percent.escape?_inj hf (heq ▸ h)

/-- An identifier has no escaped form exactly if it is empty or has a surrogate, and then calls that
need one fail for want of a user. Otherwise the escaped form is a segment of its own. -/
theorem user_id_fills_one_segment (t : Text) :
    (escapeUserId? (.text t) = none ↔ t = [] ∨ ∃ c ∈ t, c.isSurrogate = true) ∧
      (escapeUserId? (.text t) = none → ∀ next, Admission.withUser (.text t) next =
        .settled (.error (.client .missingAppUserId))) ∧
      ∀ e, escapeUserId? (.text t) = some e → IsSegmentOf t e := by
  refine ⟨escapeUserId?_eq_none_iff, fun h next => by rw [Admission.withUser, h], fun e he => ?_⟩
  obtain ⟨_, ⟨⟩, hne, hescape⟩ := exists_of_escapeUserId? he
  exact isSegmentOf_of_escape? hne hescape

theorem segment_of_accents_and_marks :
    escapeUserId? (.text "José/7?".toText) = some "Jos%C3%A9%2F7%3F".toText ∧
      IsSegmentOf "José/7?".toText "Jos%C3%A9%2F7%3F".toText := by
  have hescape : escapeUserId? (.text "José/7?".toText) = some "Jos%C3%A9%2F7%3F".toText := by
    decide
  exact ⟨hescape, (user_id_fills_one_segment _).2.2 _ hescape⟩

end Path

end SubscriptionClient
