import Mathlib.Data.List.Basic
import SubscriptionClient.Domain.CustomerInfo
import SubscriptionClient.Domain.Expiry

/-!
# Active sets follow the clock

The entitlements and the subscriptions that are active are found by one test, on the end that counts
and the request date; the two only differ in what a missing end means. The test fails to answer just
where an end with an offset meets a date without one or the other way round, and a later date never
turns a no into a yes.
-/

namespace SubscriptionClient

namespace DateTime

variable {t u v : DateTime}

/-- Whether the date-time has an offset from UTC. -/
def isAware (t : DateTime) : Bool := t.offset.isSome

/-- The instant of an aware date-time in microseconds, or the clock of a naive one. -/
def moment (t : DateTime) : Int := t.instant?.getD t.wallMicros

theorem later?_eq (t u : DateTime) :
    t.later? u = if t.isAware = u.isAware then some (decide (u.moment < t.moment)) else none := by
  obtain ⟨date, clock, _ | offset⟩ := t <;> obtain ⟨date', clock', _ | offset'⟩ := u <;> rfl

theorem later?_eq_none_iff : t.later? u = none ↔ t.isAware ≠ u.isAware := by
  simp [later?_eq]

theorem later?_eq_true_iff :
    t.later? u = some true ↔ t.isAware = u.isAware ∧ u.moment < t.moment := by
  simp [later?_eq]

theorem later?_trans (h : t.later? u = some true) (h' : u.later? v = some true) :
    t.later? v = some true := by
  obtain ⟨haware, hlt⟩ := later?_eq_true_iff.mp h
  obtain ⟨haware', hlt'⟩ := later?_eq_true_iff.mp h'
  exact later?_eq_true_iff.mpr ⟨haware.trans haware', Int.lt_trans hlt' hlt⟩

end DateTime

namespace CustomerInfo

/-! ## Selecting with a test that may fail -/

section Select

variable {α : Type} {test test' : α → Option Bool} {as bs cs : List α}

/-- A selection that answers is the one of a plain test; it does not where the test does not. -/
theorem select?_eq (test : α → Option Bool) (as : List α) :
    select? test as =
      if as.any fun a => (test a).isNone then none
      else some (as.filter fun a => test a == some true) := by
  induction as with
  | nil => rfl
  | cons a as ih =>
    rw [select?, ih, List.any_cons, List.filter_cons]
    cases htest : test a with
    | none => rfl
    | some keep =>
      rw [Option.isNone_some, Bool.false_or]
      split
      · rfl
      · cases keep <;> rfl

theorem select?_eq_none_iff : select? test as = none ↔ ∃ a ∈ as, test a = none := by
  simp [select?_eq]

theorem eq_filter_of_select? (h : select? test as = some bs) :
    bs = as.filter fun a => test a == some true := by
  rw [select?_eq] at h
  split at h
  · cases h
  · exact (Option.some.inj h).symm

theorem select?_sublist (himp : ∀ a, test' a = some true → test a = some true)
    (hb : select? test as = some bs) (hc : select? test' as = some cs) : cs.Sublist bs := by
  rw [eq_filter_of_select? hb, eq_filter_of_select? hc]
  refine List.monotone_filter_right as fun a h => ?_
  simp only [beq_iff_eq] at h ⊢
  exact himp a h

end Select

/-! ## The one test -/

/-- Whether an end lies after a moment; the answer for a missing end is given. -/
def outlasts? (endless : Bool) (now : DateTime) : Option DateTime → Option Bool
  | none => some endless
  | some expiry => expiry.later? now

variable {c : CustomerInfo} {endless : Bool} {now date : DateTime} {ending : Option DateTime}

theorem isActiveAt?_eq (e : Entitlement) (now : DateTime) :
    e.isActiveAt? now = outlasts? true now e.effectiveExpiry := by
  rw [Entitlement.isActiveAt?]
  cases e.effectiveExpiry <;> rfl

/-- Of dates that are values the same is asked; without an answer, clocks are mixed. -/
theorem expiry_isActiveAt?_eq (e : Entitlement) (now : DateTime) :
    Expiry.isActiveAt? (.ofOption .dateTime e.expiresDate)
        (.ofOption .dateTime e.gracePeriodExpiresDate) (.dateTime now) =
      (e.isActiveAt? now).elim (.error .mixedClocks) .ok := by
  have hbefore (expiry : DateTime) : (Value.dateTime now).before? (.dateTime expiry) =
      (expiry.later? now).elim (.error .mixedClocks) .ok := by
    rw [Value.before?]
    cases expiry.later? now <;> rfl
  rw [Entitlement.isActiveAt?, Entitlement.effectiveExpiry]
  cases e.gracePeriodExpiresDate with
  | some expiry => exact hbefore expiry
  | none =>
    cases e.expiresDate with
    | some expiry => exact hbefore expiry
    | none => rfl

theorem subscriptionActive?_eq (now : DateTime) (ending : Option DateTime) :
    subscriptionActive? now ending = outlasts? false now ending := by
  cases ending <;> rfl

theorem outlasts?_eq_none_iff : outlasts? endless now ending = none ↔
    ∃ expiry, ending = some expiry ∧ expiry.isAware ≠ now.isAware := by
  cases ending with
  | none => simp [outlasts?]
  | some expiry => simp [outlasts?, DateTime.later?_eq_none_iff]

theorem outlasts?_of_ne_none (h : outlasts? endless now ending ≠ none) :
    outlasts? endless now ending =
      some (ending.elim endless fun expiry => decide (now.moment < expiry.moment)) := by
  cases ending with
  | none => rfl
  | some expiry =>
    have haware : expiry.isAware = now.isAware := by
      simpa [outlasts?, DateTime.later?_eq_none_iff] using h
    rw [outlasts?, DateTime.later?_eq, if_pos haware, Option.elim_some]

/-- What lies after a date also lies after every earlier one. -/
theorem outlasts?_of_later (hdate : date.later? now = some true)
    (h : outlasts? endless date ending = some true) :
    outlasts? endless now ending = some true := by
  cases ending with
  | none => exact h
  | some expiry => exact DateTime.later?_trans h hdate

section Outlasting

variable {α : Type} {expiryOf : α → Option DateTime} {as bs cs : List α}

theorem select?_outlasts_eq_none_iff :
    select? (fun a => outlasts? endless now (expiryOf a)) as = none ↔
      ∃ a ∈ as, ∃ expiry, expiryOf a = some expiry ∧ expiry.isAware ≠ now.isAware := by
  simp only [select?_eq_none_iff, outlasts?_eq_none_iff]

theorem eq_filter_of_select?_outlasts
    (h : select? (fun a => outlasts? endless now (expiryOf a)) as = some bs) :
    bs = as.filter fun a =>
      (expiryOf a).elim endless fun expiry => decide (now.moment < expiry.moment) := by
  rw [eq_filter_of_select? h]
  refine List.filter_congr fun a ha => ?_
  have hanswer : outlasts? endless now (expiryOf a) ≠ none := fun hnone => by
    rw [select?_eq_none_iff.mpr ⟨a, ha, hnone⟩] at h
    cases h
  rw [outlasts?_of_ne_none hanswer, Option.some_beq_some, beq_true]

theorem select?_outlasts_sublist (hdate : date.later? now = some true)
    (hb : select? (fun a => outlasts? endless now (expiryOf a)) as = some bs)
    (hc : select? (fun a => outlasts? endless date (expiryOf a)) as = some cs) :
    cs.Sublist bs :=
  select?_sublist (fun _ => outlasts?_of_later hdate) hb hc

end Outlasting

/-! ## The two sets -/

theorem activeEntitlements?_eq (c : CustomerInfo) : c.activeEntitlements? =
    select? (fun e => outlasts? true c.requestDate e.2.effectiveExpiry) c.entitlements := by
  simp only [activeEntitlements?, isActiveAt?_eq]

theorem activeSubscriptions?_eq (c : CustomerInfo) : c.activeSubscriptions? =
    (select? (fun p => outlasts? false c.requestDate p.2) c.expirationDates).map
      (·.map Prod.fst) := by
  simp only [activeSubscriptions?, subscriptionActive?_eq]

/-- The same information as of another date. -/
def asOf (c : CustomerInfo) (date : DateTime) : CustomerInfo := { c with requestDate := date }

theorem activeEntitlements_asOf_sublist {es fs : List (Text × Entitlement)}
    (hdate : date.later? c.requestDate = some true) (he : c.activeEntitlements? = some es)
    (hf : (c.asOf date).activeEntitlements? = some fs) : fs.Sublist es := by
  rw [activeEntitlements?_eq] at he hf
  exact select?_outlasts_sublist hdate he hf

theorem activeSubscriptions_asOf_sublist {ps qs : List Text}
    (hdate : date.later? c.requestDate = some true) (hp : c.activeSubscriptions? = some ps)
    (hq : (c.asOf date).activeSubscriptions? = some qs) : qs.Sublist ps := by
  rw [activeSubscriptions?_eq, Option.map_eq_some_iff] at hp hq
  obtain ⟨es, hes, rfl⟩ := hp
  obtain ⟨fs, hfs, rfl⟩ := hq
  exact (select?_outlasts_sublist hdate hes hfs).map Prod.fst

/-- Each set is undefined just where an end does not compare with the request date; otherwise it has
what ends after the request date, in order, and the entitlements without an end. At a later date no
set has more. -/
theorem active_sets_follow_clock (c : CustomerInfo) :
    (c.activeEntitlements? = none ↔
      ∃ e ∈ c.entitlements, ∃ expiry, e.2.effectiveExpiry = some expiry ∧
        expiry.isAware ≠ c.requestDate.isAware) ∧
    (∀ es, c.activeEntitlements? = some es →
      es = c.entitlements.filter fun e => e.2.effectiveExpiry.elim true fun expiry =>
        decide (c.requestDate.moment < expiry.moment)) ∧
    (c.activeSubscriptions? = none ↔
      ∃ p ∈ c.expirationDates, ∃ expiry, p.2 = some expiry ∧
        expiry.isAware ≠ c.requestDate.isAware) ∧
    (∀ ps, c.activeSubscriptions? = some ps →
      ps = (c.expirationDates.filter fun p => p.2.elim false fun expiry =>
        decide (c.requestDate.moment < expiry.moment)).map Prod.fst) ∧
    ∀ date, date.later? c.requestDate = some true →
      (∀ es fs, c.activeEntitlements? = some es →
        (c.asOf date).activeEntitlements? = some fs → fs.Sublist es) ∧
      (∀ ps qs, c.activeSubscriptions? = some ps →
        (c.asOf date).activeSubscriptions? = some qs → qs.Sublist ps) := by
  refine ⟨?_, ?_, ?_, ?_, fun date hdate => ⟨?_, ?_⟩⟩
  · rw [activeEntitlements?_eq]
    exact select?_outlasts_eq_none_iff
  · intro es h
    rw [activeEntitlements?_eq] at h
    exact eq_filter_of_select?_outlasts h
  · rw [activeSubscriptions?_eq, Option.map_eq_none_iff]
    exact select?_outlasts_eq_none_iff
  · intro ps h
    rw [activeSubscriptions?_eq, Option.map_eq_some_iff] at h
    obtain ⟨selected, hselected, rfl⟩ := h
    rw [eq_filter_of_select?_outlasts hselected]
  · exact fun es fs he hf => activeEntitlements_asOf_sublist hdate he hf
  · exact fun ps qs hp hq => activeSubscriptions_asOf_sublist hdate hp hq

/-- An end at eleven in Greenwich lies after a noon two hours east of it and an end at ten does not.
At noon in Greenwich only what never ends is left. -/
def travelling : CustomerInfo where
  requestDate := ⟨⟨2024, 1, 1⟩, 12 * 3600 * DateTime.microsPerSecond,
    some (2 * 3600 * DateTime.microsPerSecond)⟩
  originalAppUserId := "u".toText
  firstSeen := ⟨⟨2023, 1, 1⟩, 0, some 0⟩
  originalApplicationVersion := none
  originalPurchaseDate := none
  managementUrl := none
  entitlements :=
    [("gold".toText, ⟨"gold".toText, "g".toText, none, none, none⟩),
      ("pro".toText, ⟨"pro".toText, "p".toText, none, some (hour 10), some (hour 11)⟩),
      ("old".toText, ⟨"old".toText, "o".toText, none, some (hour 10), none⟩)]
  expirationDates :=
    [("p".toText, some (hour 11)), ("o".toText, some (hour 10)), ("g".toText, none)]
  purchaseDates := []
  transactions := []
  raw := []
where
  hour (n : Nat) : DateTime := ⟨⟨2024, 1, 1⟩, n * 3600 * DateTime.microsPerSecond, some 0⟩

theorem only_gold_lasts_until_noon :
    (travelling.activeEntitlements? = some (travelling.entitlements.take 2) ∧
      (travelling.asOf (travelling.hour 12)).activeEntitlements? =
        some (travelling.entitlements.take 1)) ∧
    (travelling.entitlements.take 1).Sublist (travelling.entitlements.take 2) := by
  have hnow : travelling.activeEntitlements? = some (travelling.entitlements.take 2) := by
    decide +kernel
  have hnoon : (travelling.asOf (travelling.hour 12)).activeEntitlements? =
      some (travelling.entitlements.take 1) := by
    decide +kernel
  obtain ⟨-, -, -, -, hlater⟩ := active_sets_follow_clock travelling
  exact ⟨⟨hnow, hnoon⟩, (hlater (travelling.hour 12) (by decide +kernel)).1 _ _ hnow hnoon⟩

end CustomerInfo

end SubscriptionClient
