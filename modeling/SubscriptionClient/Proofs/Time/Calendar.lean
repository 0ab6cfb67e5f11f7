import Mathlib.Tactic.IntervalCases
import SubscriptionClient.Time.DateTime

/-!
# Day numbers and the calendar

Day numbers count the days of the calendar: the day after a date has the next number, dates are in
the order of their numbers, and a number belongs to one date. So the instants of date-times are those
of a clock that runs on from day to day, read at a fixed offset from UTC.
-/

namespace SubscriptionClient

namespace Date

variable {d e : Date} {y m k : Nat}

/-! ## Days of a year -/

/-- Days up to the March of a year. -/
def daysBeforeMarch (y : Int) : Int := 365 * y + y / 4 - y / 100 + y / 400

theorem dayNumber_mk (y m k : Nat) : (Date.mk y m k).dayNumber =
    if m ≤ 2 then daysBeforeMarch ((y : Int) - 1) + (153 * ((m : Int) + 9) + 2) / 5 + k - 719469
    else daysBeforeMarch y + (153 * ((m : Int) - 3) + 2) / 5 + k - 719469 := by
  unfold dayNumber daysBeforeMarch
  split
  · simp only [*]
    omega
  · simp only [*]
    omega

theorem daysBeforeMarch_eq_add (y : Nat) : daysBeforeMarch y =
    daysBeforeMarch ((y : Int) - 1) + if isLeapYear y then 366 else 365 := by
  unfold daysBeforeMarch isLeapYear
  split <;> simp_all <;> omega

/-! ## Months -/

theorem dayNumber_eq_add (d : Date) :
    d.dayNumber = (Date.mk d.year d.month 1).dayNumber + d.day - 1 := by
  obtain ⟨y, m, k⟩ := d
  show (Date.mk y m k).dayNumber = (Date.mk y m 1).dayNumber + k - 1
  rw [dayNumber_mk, dayNumber_mk]
  split <;> omega

/-- The first of the month after this one. -/
def firstOfNext (y m : Nat) : Date := if m < 12 then ⟨y, m + 1, 1⟩ else ⟨y + 1, 1, 1⟩

theorem dayNumber_firstOfNext (hm : 1 ≤ m) (hm' : m ≤ 12) :
    (firstOfNext y m).dayNumber = (Date.mk y m 1).dayNumber + daysInMonth y m := by
  have hyear := daysBeforeMarch_eq_add y
  interval_cases m <;> simp [firstOfNext, dayNumber_mk, daysInMonth]
  case «2» =>
    rw [hyear]
    split <;> omega
  all_goals omega

theorem twentyEight_le_daysInMonth (y m : Nat) : 28 ≤ daysInMonth y m := by
  unfold daysInMonth
  split_ifs <;> decide

theorem le_of_le_daysInMonth (h : k ≤ daysInMonth y m) :
    k ≤ 31 ∧ (m = 4 ∨ m = 6 ∨ m = 9 ∨ m = 11 → k ≤ 30) ∧
      (m = 2 → k ≤ 28 ∨ k = 29 ∧ isLeapYear y = true) := by
  unfold daysInMonth at h
  split_ifs at h with hm hleap
  · refine ⟨by omega, by omega, fun _ => ?_⟩
    exact (Nat.lt_or_ge k 29).imp (by omega) fun hk => ⟨by omega, hleap⟩
  all_goals omega

/-! ## The next day -/

/-- The day after a date. -/
def next (d : Date) : Date :=
  if d.day < daysInMonth d.year d.month then { d with day := d.day + 1 }
  else firstOfNext d.year d.month

theorem dayNumber_next (h : d.IsValid) : d.next.dayNumber = d.dayNumber + 1 := by
  obtain ⟨-, ⟨hm, hm'⟩, hk, hk'⟩ := h
  have hday := dayNumber_eq_add d
  rw [next]
  split
  next =>
    have hnext := dayNumber_eq_add { d with day := d.day + 1 }
    simp only at hnext
    omega
  next hlast =>
    have hlast : d.day = daysInMonth d.year d.month := Nat.le_antisymm hk' (Nat.not_lt.mp hlast)
    rw [dayNumber_firstOfNext hm hm']
    omega

/-! ## The order of dates -/

/-- The first of the months, counted from the beginning. -/
def firstOfMonth (i : Nat) : Date := ⟨i / 12, i % 12 + 1, 1⟩

theorem firstOfNext_eq (i : Nat) : firstOfNext (i / 12) (i % 12 + 1) = firstOfMonth (i + 1) := by
  rw [firstOfNext, firstOfMonth]
  split
  · rw [Date.mk.injEq]
    omega
  · rw [Date.mk.injEq]
    omega

theorem dayNumber_firstOfMonth_lt_succ (i : Nat) :
    (firstOfMonth i).dayNumber < (firstOfMonth (i + 1)).dayNumber := by
  have hdays := twentyEight_le_daysInMonth (i / 12) (i % 12 + 1)
  have hnext := dayNumber_firstOfNext (y := i / 12) (m := i % 12 + 1) (by omega) (by omega)
  rw [firstOfNext_eq] at hnext
  rw [hnext, firstOfMonth]
  omega

theorem dayNumber_firstOfMonth_le {i j : Nat} (h : i ≤ j) :
    (firstOfMonth i).dayNumber ≤ (firstOfMonth j).dayNumber := by
  induction h with
  | refl => exact Int.le_refl _
  | step _ ih => exact ih.trans (Int.le_of_lt (dayNumber_firstOfMonth_lt_succ _))

def monthIndex (d : Date) : Nat := 12 * d.year + (d.month - 1)

theorem firstOfMonth_monthIndex (h : d.IsValid) :
    firstOfMonth d.monthIndex = ⟨d.year, d.month, 1⟩ := by
  obtain ⟨-, ⟨hm, hm'⟩, -⟩ := h
  rw [firstOfMonth, monthIndex, Date.mk.injEq]
  omega

theorem dayNumber_lt_firstOfMonth (h : d.IsValid) :
    d.dayNumber < (firstOfMonth (d.monthIndex + 1)).dayNumber := by
  have hfirst := firstOfMonth_monthIndex h
  rw [firstOfMonth, Date.mk.injEq] at hfirst
  obtain ⟨-, ⟨hm, hm'⟩, hk, hk'⟩ := h
  rw [← firstOfNext_eq, hfirst.1, hfirst.2.1, dayNumber_firstOfNext hm hm']
  have hday := dayNumber_eq_add d
  omega

theorem firstOfMonth_le_dayNumber (h : d.IsValid) :
    (firstOfMonth d.monthIndex).dayNumber ≤ d.dayNumber := by
  have hday := dayNumber_eq_add d
  rw [firstOfMonth_monthIndex h]
  have hk := h.2.2.1
  omega

theorem dayNumber_lt_of_monthIndex_lt (hd : d.IsValid) (he : e.IsValid)
    (h : d.monthIndex < e.monthIndex) : d.dayNumber < e.dayNumber :=
  calc d.dayNumber < (firstOfMonth (d.monthIndex + 1)).dayNumber := dayNumber_lt_firstOfMonth hd
    _ ≤ (firstOfMonth e.monthIndex).dayNumber := dayNumber_firstOfMonth_le h
    _ ≤ e.dayNumber := firstOfMonth_le_dayNumber he

/-- Dates are in the order of their years, then of their months, then of their days. -/
theorem dayNumber_lt_iff (hd : d.IsValid) (he : e.IsValid) : d.dayNumber < e.dayNumber ↔
    d.year < e.year ∨ d.year = e.year ∧ (d.month < e.month ∨ d.month = e.month ∧ d.day < e.day) := by
  have hdm := hd.2.1
  have hem := he.2.1
  have hindex : d.monthIndex < e.monthIndex ↔
      d.year < e.year ∨ d.year = e.year ∧ d.month < e.month := by
    unfold monthIndex
    omega
  have hindex' : e.monthIndex < d.monthIndex ↔
      e.year < d.year ∨ e.year = d.year ∧ e.month < d.month := by
    unfold monthIndex
    omega
  rcases Nat.lt_trichotomy d.monthIndex e.monthIndex with hlt | heq | hgt
  · exact iff_of_true (dayNumber_lt_of_monthIndex_lt hd he hlt) (by omega)
  · have hsame : d.year = e.year ∧ d.month = e.month := by omega
    have hday := dayNumber_eq_add d
    have hday' := dayNumber_eq_add e
    rw [hsame.1, hsame.2] at hday
    omega
  · have hlt := dayNumber_lt_of_monthIndex_lt he hd hgt
    exact iff_of_false (by omega) (by omega)

theorem dayNumber_mem (h : d.IsValid) : (Date.mk 1 1 1).dayNumber ≤ d.dayNumber ∧
    d.dayNumber ≤ (Date.mk 9999 12 31).dayNumber := by
  have hfirst := dayNumber_lt_iff h (e := ⟨1, 1, 1⟩) (by decide)
  have hlast := dayNumber_lt_iff (d := ⟨9999, 12, 31⟩) (by decide) h
  obtain ⟨hy, hm, hk, hk'⟩ := h
  have hlong := (le_of_le_daysInMonth hk').1
  simp only at hfirst hlast
  omega

theorem dayNumber_injOn (hd : d.IsValid) (he : e.IsValid) (h : d.dayNumber = e.dayNumber) :
    d = e := by
  have hlt := dayNumber_lt_iff hd he
  have hgt := dayNumber_lt_iff he hd
  rw [h] at hlt hgt
  obtain ⟨y, m, k⟩ := d
  obtain ⟨y', m', k'⟩ := e
  rw [Date.mk.injEq]
  simp only at hlt hgt
  omega

/-! ## The date of a day number -/

/-- A year in a cycle of four hundred years: the cycles, centuries, fours and years before it. -/
structure IsSplit (y era b c q : Int) : Prop where
  eq : y = 400 * era + 100 * b + 4 * c + q
  centuries : 0 ≤ b ∧ b ≤ 3
  fours : 0 ≤ c ∧ c ≤ 24
  years : 0 ≤ q ∧ q ≤ 3

theorem exists_isSplit (y : Int) : ∃ era b c q, IsSplit y era b c q :=
  ⟨y / 400, y % 400 / 100, y % 400 % 100 / 4, y % 400 % 100 % 4, by omega, by omega, by omega,
    by omega⟩

section Split

variable {y era b c q r : Int}

theorem IsSplit.daysBeforeMarch_eq (h : IsSplit y era b c q) :
    daysBeforeMarch y = 146097 * era + 36524 * b + 1461 * c + 365 * q := by
  obtain ⟨rfl, hb, hc, hq⟩ := h
  have hfour : (400 * era + 100 * b + 4 * c + q) / 4 = 100 * era + 25 * b + c := by omega
  have hhundred : (400 * era + 100 * b + 4 * c + q) / 100 = 4 * era + b := by omega
  have hera : (400 * era + 100 * b + 4 * c + q) / 400 = era := by omega
  rw [daysBeforeMarch, hfour, hhundred, hera]
  omega

/-- Whether a year that begins in March has this day. Only the last one may be a leap day. -/
structure HasDay (b c q r : Int) : Prop where
  nonneg : 0 ≤ r
  le : r ≤ 365
  leap : r = 365 → q = 3 ∧ (c ≠ 24 ∨ b = 3)

theorem IsSplit.era_eq (h : IsSplit y era b c q) (hr : HasDay b c q r) :
    (daysBeforeMarch y + r) / 146097 = era := by
  obtain ⟨hr, hr', hleap⟩ := hr
  rw [h.daysBeforeMarch_eq]
  obtain ⟨-, hb, hc, hq⟩ := h
  omega

/-- The formula for the year in a cycle finds the year that a day falls in. -/
theorem IsSplit.year_eq (h : IsSplit y era b c q) (hr : HasDay b c q r) {doe : Int}
    (hdoe : doe = 36524 * b + 1461 * c + 365 * q + r) :
    (doe - doe / 1460 + doe / 36524 - doe / 146096) / 365 = 100 * b + 4 * c + q := by
  obtain ⟨-, hb, hc, hq⟩ := h
  obtain ⟨hr, hr', hleap⟩ := hr
  have hcentury : 1461 * c + 365 * q + r < 36524 ∨ b = 3 ∧ 1461 * c + 365 * q + r = 36524 := by
    omega
  have hcenturies : doe / 36524 - doe / 146096 = b := by
    rcases hcentury with hlt | ⟨hb, heq⟩
    · have hfirst : doe / 36524 = b := by omega
      have hlast : doe / 146096 = 0 := by omega
      omega
    · omega
  have hfours : doe / 1460 = 25 * b + c + (24 * b + c + 365 * q + r) / 1460 := by omega
  have hrest : 0 ≤ r - (24 * b + c + 365 * q + r) / 1460 ∧
      r - (24 * b + c + 365 * q + r) / 1460 < 365 := by omega
  omega

/-- A day of a year that begins in March is found again, with its month and the day in it. -/
theorem ofDayNumber_eq {month day : Int} (h : IsSplit y era b c q) (hr : HasDay b c q r)
    (hday : r = (153 * month + 2) / 5 + day - 1) (hmonth : (5 * r + 2) / 153 = month) :
    ofDayNumber (daysBeforeMarch y + r - 719468) =
      ⟨(y + if (if month < 10 then month + 3 else month - 9) ≤ 2 then 1 else 0).toNat,
        (if month < 10 then month + 3 else month - 9).toNat, day.toNat⟩ := by
  have hz : daysBeforeMarch y + r - 719468 + 719468 = daysBeforeMarch y + r := by omega
  obtain ⟨doe, hdoe⟩ : ∃ doe, daysBeforeMarch y + r - era * 146097 = doe := ⟨_, rfl⟩
  have hparts : doe = 36524 * b + 1461 * c + 365 * q + r := by
    rw [← hdoe, h.daysBeforeMarch_eq]
    omega
  have hrest : doe - (365 * (100 * b + 4 * c + q) + (100 * b + 4 * c + q) / 4 -
      (100 * b + 4 * c + q) / 100) = r := by
    obtain ⟨-, hb, hc, hq⟩ := h
    have hfour : (100 * b + 4 * c + q) / 4 = 25 * b + c := by omega
    have hhundred : (100 * b + 4 * c + q) / 100 = b := by omega
    omega
  simp only [ofDayNumber, hz, h.era_eq hr, hdoe, h.year_eq hr hparts, hrest, hmonth]
  rw [h.eq, Date.mk.injEq]
  refine ⟨congrArg Int.toNat ?_, rfl, congrArg Int.toNat ?_⟩
  · omega
  · omega

end Split

/-- In a year that begins in March, months follow each other as the formula has it. -/
theorem hasDay_of_isValid {y' era b c q month : Int} (h : d.IsValid)
    (hy' : y' = if d.month ≤ 2 then (d.year : Int) - 1 else d.year) (hs : IsSplit y' era b c q)
    (hmonth : month = if d.month ≤ 2 then (d.month : Int) + 9 else d.month - 3) :
    HasDay b c q ((153 * month + 2) / 5 + d.day - 1) ∧
      (5 * ((153 * month + 2) / 5 + d.day - 1) + 2) / 153 = month := by
  obtain ⟨y, m, k⟩ := d
  obtain ⟨-, ⟨hm, hm'⟩, hk, hk'⟩ := h
  simp only at hy' hmonth hm hm' hk hk' ⊢
  obtain ⟨heq, hb, hc, hq⟩ := hs
  have hleap : isLeapYear y = true → m ≤ 2 → q = 3 ∧ (c ≠ 24 ∨ b = 3) := by
    intro hleap hm
    simp only [isLeapYear, decide_eq_true_eq] at hleap
    rw [if_pos hm] at hy'
    omega
  obtain ⟨hlong, hshort, hfebruary⟩ := le_of_le_daysInMonth hk'
  have hlast : m = 2 → k = 29 → q = 3 ∧ (c ≠ 24 ∨ b = 3) := by
    rintro rfl rfl
    exact hleap ((hfebruary rfl).resolve_left (by decide)).2 le_rfl
  have hfebruary' : m = 2 → k ≤ 29 := by omega
  clear hleap hfebruary hy' heq hk'
  interval_cases m <;> norm_num at hmonth <;> subst hmonth <;>
    exact ⟨⟨by omega, by omega, by omega⟩, by omega⟩

theorem ofDayNumber_dayNumber (h : d.IsValid) : ofDayNumber d.dayNumber = d := by
  have hday := h.2.2.1
  have hmonths := h.2.1
  obtain ⟨y', hy'⟩ : ∃ y', y' = if d.month ≤ 2 then (d.year : Int) - 1 else d.year := ⟨_, rfl⟩
  obtain ⟨month, hmonth⟩ :
      ∃ month, month = if d.month ≤ 2 then (d.month : Int) + 9 else d.month - 3 :=
    ⟨_, rfl⟩
  obtain ⟨era, b, c, q, hs⟩ := exists_isSplit y'
  obtain ⟨hr, hrecover⟩ := hasDay_of_isValid h hy' hs hmonth
  obtain ⟨y, m, k⟩ := d
  simp only at hday hmonths hy' hmonth hr hrecover
  have hnumber : (Date.mk y m k).dayNumber =
      daysBeforeMarch y' + ((153 * month + 2) / 5 + k - 1) - 719468 := by
    rw [dayNumber_mk, hy', hmonth]
    split <;> omega
  rw [hnumber, ofDayNumber_eq hs hr rfl hrecover, Date.mk.injEq]
  by_cases hm : m ≤ 2
  · rw [if_pos hm] at hy' hmonth
    omega
  · rw [if_neg hm] at hy' hmonth
    omega

/-! ## Every day has a date -/

theorem isValid_next (h : d.IsValid) (hlast : d.dayNumber < (Date.mk 9999 12 31).dayNumber) :
    d.next.IsValid := by
  have hbefore := (dayNumber_lt_iff h (by decide)).mp hlast
  have hdays := twentyEight_le_daysInMonth
  obtain ⟨y, m, k⟩ := d
  obtain ⟨hy, hm, hk⟩ := h
  simp only at hbefore hy hm hk
  rw [next]
  split
  next hlt => exact ⟨hy, hm, Nat.le_add_left 1 k, hlt⟩
  next hend =>
    have hend : ¬k < daysInMonth y m := hend
    show (firstOfNext y m).IsValid
    rw [firstOfNext]
    split
    next hlt =>
      exact ⟨hy, ⟨Nat.le_add_left 1 m, hlt⟩, le_rfl, (by decide : 1 ≤ 28).trans (hdays _ _)⟩
    next hend' =>
      obtain rfl : m = 12 := by omega
      have hlong : daysInMonth y 12 = 31 := rfl
      have hyear : y < 9999 := by omega
      exact ⟨⟨Nat.le_add_left 1 y, hyear⟩, ⟨le_rfl, (by decide : 1 ≤ 12)⟩, le_rfl,
        (by decide : 1 ≤ 28).trans (hdays _ _)⟩

/-- Counting from the first day, day by day, all days are reached. -/
theorem exists_dayNumber_eq (i : Nat)
    (h : (Date.mk 1 1 1).dayNumber + i ≤ (Date.mk 9999 12 31).dayNumber) :
    ∃ d : Date, d.IsValid ∧ d.dayNumber = (Date.mk 1 1 1).dayNumber + i := by
  induction i with
  | zero => exact ⟨⟨1, 1, 1⟩, by decide, by omega⟩
  | succ i ih =>
    obtain ⟨d, hd, hi⟩ := ih (by omega)
    exact ⟨d.next, isValid_next hd (by omega), by rw [dayNumber_next hd]; omega⟩

/-- The date of a day number is the only one that has it. -/
theorem dayNumber_ofDayNumber {n : Int} (h : (Date.mk 1 1 1).dayNumber ≤ n)
    (h' : n ≤ (Date.mk 9999 12 31).dayNumber) :
    (ofDayNumber n).IsValid ∧ (ofDayNumber n).dayNumber = n := by
  obtain ⟨d, hd, hn⟩ := exists_dayNumber_eq (n - (Date.mk 1 1 1).dayNumber).toNat (by omega)
  have hn : d.dayNumber = n := by omega
  rw [← hn, ofDayNumber_dayNumber hd]
  exact ⟨hd, rfl⟩

example : (Date.mk 1970 1 1).dayNumber = 0 ∧ (Date.mk 2024 2 28).next = ⟨2024, 2, 29⟩ ∧
    (Date.mk 1900 2 28).next = ⟨1900, 3, 1⟩ := by decide

end Date

/-! ## Date-times -/

namespace DateTime

variable {t u : DateTime} {n : Int}

theorem wallMicros_next (h : t.date.IsValid) :
    wallMicros { t with date := t.date.next } = t.wallMicros + microsPerDay := by
  have hnext := Date.dayNumber_next h
  simp only [wallMicros, microsPerDay, microsPerSecond, hnext]
  push_cast
  omega

/-- A clock is compared only on the same day. -/
theorem wallMicros_lt_iff (ht : t.clock < microsPerDay) (hu : u.clock < microsPerDay) :
    t.wallMicros < u.wallMicros ↔ t.date.dayNumber < u.date.dayNumber ∨
      t.date.dayNumber = u.date.dayNumber ∧ t.clock < u.clock := by
  simp only [microsPerDay, microsPerSecond] at ht hu
  simp only [wallMicros, microsPerDay, microsPerSecond]
  push_cast
  omega

/-- A number of microseconds is read as the date-time of that instant. -/
theorem instant?_of_ofEpochMicros? (h : ofEpochMicros? n = some t) :
    t.date.IsValid ∧ t.clock < microsPerDay ∧ t.offset = some 0 ∧ t.instant? = some n := by
  rw [ofEpochMicros?] at h
  split_ifs at h with hrange
  obtain rfl := Option.some.inj h
  obtain ⟨hvalid, hnumber⟩ := Date.dayNumber_ofDayNumber hrange.1 hrange.2
  refine ⟨hvalid, ?_, rfl, ?_⟩
  · simp only [microsPerDay, microsPerSecond]
    omega
  · simp only [instant?, wallMicros, hnumber, Option.map_some, Option.some.injEq]
    simp only [microsPerDay, microsPerSecond]
    omega

end DateTime

end SubscriptionClient
