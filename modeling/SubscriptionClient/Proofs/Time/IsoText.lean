import SubscriptionClient.Proofs.Text.Clean
import SubscriptionClient.Proofs.Time.Calendar
import SubscriptionClient.Schema.Scalar

/-!
# Dates as they are written

The ISO text of a date-time is read as that date-time, and a timestamp is read as the date-time of
that instant in UTC.
-/

namespace SubscriptionClient

/-! ## Digits in places -/

namespace Text

variable {t : Text} {w n : Nat}

theorem isDigits_ofNatPadded (w n : Nat) : IsDigits (ofNatPadded w n) := by
  refine IsDigits.append (fun c hc => ?_) (isDigits_ofNat n)
  rw [List.eq_of_mem_replicate hc]
  decide

theorem length_ofNatPadded (hw : 0 < w) (h : n < 10 ^ w) : (ofNatPadded w n).length = w := by
  have hle := (length_ofNat_le_iff hw).mpr h
  rw [ofNatPadded, List.length_append, List.length_replicate]
  omega

theorem valueOf_ofNatPadded (w n : Nat) : valueOf (ofNatPadded w n) = n := by
  rw [ofNatPadded, valueOf_zeros_append, valueOf_ofNat]

theorem IsDigits.mapM_asciiValue? (h : IsDigits t) :
    t.mapM Numeral.asciiValue? = some (t.map fun c => c.val - 48) := by
  induction t with
  | nil => rfl
  | cons c t ih =>
    obtain ⟨hc, ht⟩ := List.forall_mem_cons.mp h
    rw [List.mapM_cons, ih ht, Numeral.asciiValue?, if_pos hc]
    rfl

theorem ofDigits_map_val (t : Text) :
    Numeral.ofDigits 10 (t.map fun c => c.val - 48) = valueOf t := by
  rw [Numeral.ofDigits, List.foldl_map, valueOf]
  simp only [Nat.mul_comm]

end Text

namespace DateTime

variable {d : Date} {t : DateTime} {r : Text} {w n second micros : Nat} {east : Int}

theorem fixedDigits?_ofNatPadded (hw : 0 < w) (h : n < 10 ^ w) (r : Text) :
    fixedDigits? w (Text.ofNatPadded w n ++ r) = some (n, r) := by
  have hlength := Text.length_ofNatPadded hw h
  have htake : (Text.ofNatPadded w n ++ r).take w = Text.ofNatPadded w n := List.take_left' hlength
  have hdrop : (Text.ofNatPadded w n ++ r).drop w = r := List.drop_left' hlength
  simp only [fixedDigits?, htake, hdrop, hlength, (Text.isDigits_ofNatPadded w n).mapM_asciiValue?,
    Text.ofDigits_map_val, Text.valueOf_ofNatPadded, bind, Option.bind, ↓reduceIte]
  rfl

theorem readDate?_dateText (h : d.IsValid) (r : Text) :
    readDate? (dateText d ++ r) = some (d, r) := by
  have hhyphen (s : Text) : after? '-' ("-".toText ++ s) = some s := rfl
  have hday : d.day < 10 ^ 2 := by
    have := (Date.le_of_le_daysInMonth h.2.2.2).1
    omega
  have hyear := h.1
  have hmonth := h.2.1
  simp only [readDate?, dateText, List.append_assoc,
    fixedDigits?_ofNatPadded (w := 4) (by decide) (show d.year < 10 ^ 4 by omega),
    fixedDigits?_ofNatPadded (w := 2) (by decide) (show d.month < 10 ^ 2 by omega),
    fixedDigits?_ofNatPadded (w := 2) (by decide) hday, hhyphen, bind, Option.bind, h, ↓reduceIte]

/-- Whether a text goes on neither with digits nor with a fraction. -/
def EndsSeconds (r : Text) : Prop :=
  ∀ c, r.head? = some c →
    c.isAsciiDigit = false ∧ c ≠ CodePoint.ofChar '.' ∧ c ≠ CodePoint.ofChar ','

theorem fractionMicros_ofNatPadded (h : micros < 10 ^ 6) :
    fractionMicros ((Text.ofNatPadded 6 micros).map fun c => c.val - 48) = micros := by
  have hlength := Text.length_ofNatPadded (w := 6) (by decide) h
  rw [fractionMicros, List.take_of_length_le (by rw [List.length_map, hlength]),
    Text.ofDigits_map_val, Text.valueOf_ofNatPadded, List.length_map, hlength, Nat.sub_self,
    Nat.pow_zero, Nat.mul_one]

theorem readSeconds?_append (hs : second < 60) (hm : micros < 10 ^ 6) (hr : EndsSeconds r) :
    readSeconds? (Text.ofNatPadded 2 second ++ (microsText micros ++ r)) =
      some (second * microsPerSecond + micros, r) := by
  have hsecond := fixedDigits?_ofNatPadded (w := 2) (by decide) (show second < 10 ^ 2 by omega)
  have hlt : ¬60 ≤ second := Nat.not_le.mpr hs
  rw [microsText]
  split
  next hzero =>
    simp only [readSeconds?, hsecond, hlt, bind, Option.bind, ↓reduceIte, List.nil_append, hzero,
      Nat.add_zero]
    cases r with
    | nil => rfl
    | cons c r =>
      obtain ⟨-, hpoint, hcomma⟩ := hr c rfl
      simp [hpoint, hcomma]
  next =>
    have hpoint : ".".toText ++ Text.ofNatPadded 6 micros ++ r =
        CodePoint.ofChar '.' :: (Text.ofNatPadded 6 micros ++ r) := rfl
    have hdigits := Text.isDigits_ofNatPadded 6 micros
    have hends : EndsRun CodePoint.isAsciiDigit r := fun c hc => (hr c hc).1
    have hrun : Numeral.asciiRun (Text.ofNatPadded 6 micros ++ r) =
        (Text.ofNatPadded 6 micros, r) :=
      Prod.ext (takeWhile_append_of_endsRun hdigits hends)
        (dropWhile_append_of_endsRun hdigits hends)
    have hne : Text.ofNatPadded 6 micros ≠ [] :=
      List.append_ne_nil_of_right_ne_nil _ (Text.ofNat_ne_nil micros)
    rw [hpoint]
    simp only [readSeconds?, hsecond, hlt, bind, Option.bind, ↓reduceIte, true_or, hrun, hne,
      hdigits.mapM_asciiValue?, fractionMicros_ofNatPadded hm]
    rfl

theorem readClock?_clockText (h : t.clock < microsPerDay) (hr : EndsSeconds r) :
    readClock? (t.clockText ++ r) = some (t.clock, r) := by
  have hcolon (s : Text) : after? ':' (colon ++ s) = some s := rfl
  simp only [microsPerDay, microsPerSecond] at h
  have hhour : t.hour < 24 := by
    unfold hour microsPerSecond
    omega
  have hminute : t.minute < 60 := Nat.mod_lt _ (by decide)
  have hsecond : t.second < 60 := Nat.mod_lt _ (by decide)
  have hmicros : t.microsecond < 10 ^ 6 := Nat.mod_lt _ (by decide)
  have hclock : (t.hour * 60 + t.minute) * 60 * microsPerSecond +
      (t.second * microsPerSecond + t.microsecond) = t.clock := by
    unfold hour minute second microsecond microsPerSecond
    omega
  have hrange : ¬(24 ≤ t.hour ∨ 60 ≤ t.minute) := by omega
  simp only [readClock?, clockText, List.append_assoc, hcolon,
    fixedDigits?_ofNatPadded (w := 2) (by decide) (show t.hour < 10 ^ 2 by omega),
    fixedDigits?_ofNatPadded (w := 2) (by decide) (show t.minute < 10 ^ 2 by omega),
    readSeconds?_append hsecond hmicros hr, hrange, bind, Option.bind, ↓reduceIte,
    Option.map_some, hclock]

/-- Whether an offset can be written in hours and minutes. -/
structure IsOffset (east : Int) : Prop where
  minutes : east % (60 * microsPerSecond : Nat) = 0
  lt : east.natAbs < microsPerDay

/-- The sign of an offset, as it is written and read. -/
theorem exists_sign (east : Int) : ∃ c sign, (if east < 0 then "-" else "+").toText = [c] ∧
    ¬(c = CodePoint.ofChar 'Z' ∨ c = CodePoint.ofChar 'z') ∧ EndsSeconds [c] ∧
    offsetSign? c = some sign ∧ sign * east.natAbs = east := by
  have hends (c : CodePoint) (hc : c.isAsciiDigit = false ∧ c ≠ CodePoint.ofChar '.' ∧
      c ≠ CodePoint.ofChar ',') : EndsSeconds [c] := by
    rintro _ ⟨⟩
    exact hc
  split
  next => exact ⟨_, -1, rfl, by decide, hends _ (by decide), by decide, by omega⟩
  next => exact ⟨_, 1, rfl, by decide, hends _ (by decide), by decide, by omega⟩

theorem readOffset?_offsetText (h : IsOffset east) :
    readOffset? (offsetText east) = some (some east) := by
  have hcolon (s : Text) : after? ':' (colon ++ s) = some s := rfl
  obtain ⟨hmicros, hlt⟩ := h
  obtain ⟨c, sign, hc, hz, -, hsign, heast⟩ := exists_sign east
  simp only [microsPerDay, microsPerSecond] at hmicros hlt
  have hwhole : east.natAbs % (60 * microsPerSecond) = 0 := by
    unfold microsPerSecond
    omega
  obtain ⟨minutes, hminutes⟩ : ∃ minutes, east.natAbs / (60 * microsPerSecond) = minutes := ⟨_, rfl⟩
  have hbound : minutes < 1440 := by
    unfold microsPerSecond at hminutes
    omega
  have hvalue : (minutes / 60 * 60 + minutes % 60) * 60 * microsPerSecond = east.natAbs := by
    unfold microsPerSecond at hminutes hwhole ⊢
    omega
  have hhour := fixedDigits?_ofNatPadded (w := 2) (by decide) (show minutes / 60 < 10 ^ 2 by omega)
  have hminute := fixedDigits?_ofNatPadded (w := 2) (by decide)
    (show minutes % 60 < 10 ^ 2 by omega) []
  rw [List.append_nil] at hminute
  have hrange : minutes / 60 < 24 ∧ minutes % 60 < 60 := by omega
  simp only [offsetText, hminutes, hwhole, hc, List.append_assoc, List.append_nil, ↓reduceIte,
    List.cons_append, List.nil_append]
  simp only [readOffset?, hz, hsign, hhour, hcolon, hminute, hrange, Option.getD_some, bind,
    Option.bind, ↓reduceIte, and_self, hvalue, heast]

theorem endsSeconds_offsetText (offset : Option Int) :
    EndsSeconds ((offset.map offsetText).getD []) := by
  cases offset with
  | none => exact nofun
  | some east =>
    obtain ⟨c, sign, hc, -, hends, -, -⟩ := exists_sign east
    have hhead : (offsetText east).head? = some c := by
      rw [offsetText, hc]
      rfl
    intro d hd
    exact hends d (hhead.symm.trans hd)

/-- The text of a date-time is read as that date-time. -/
theorem readIso?_text (hd : t.date.IsValid) (hc : t.clock < microsPerDay)
    (ho : ∀ east, t.offset = some east → IsOffset east) : readIso? t.text = some t := by
  have htext : t.text = dateText t.date ++
      (CodePoint.ofChar 'T' :: (t.clockText ++ (t.offset.map offsetText).getD [])) := by
    rw [text, isoText, List.append_assoc, List.append_assoc]
    rfl
  have hT : isSeparator (CodePoint.ofChar 'T') = true := by decide
  have hoffset : readOffset? ((t.offset.map offsetText).getD []) = some t.offset := by
    cases heast : t.offset with
    | none => rfl
    | some east => exact readOffset?_offsetText (ho east heast)
  rw [htext]
  simp only [readIso?, readDate?_dateText hd, hT, hoffset,
    readClock?_clockText hc (endsSeconds_offsetText t.offset), bind, Option.bind, ↓reduceIte]
  rfl

theorem isAscii_text (t : DateTime) : t.text.IsAscii := by
  have hdigits (w n : Nat) : (Text.ofNatPadded w n).IsAscii :=
    Text.isAscii_of_isDigits (Text.isDigits_ofNatPadded w n)
  have hmicros (n : Nat) : (microsText n).IsAscii := by
    rw [microsText]
    split
    · exact nofun
    · exact Text.IsAscii.append (by decide) (hdigits 6 n)
  have hcolon : colon.IsAscii := by decide
  have hdate : (dateText t.date).IsAscii :=
    ((((hdigits 4 _).append (by decide)).append (hdigits 2 _)).append (by decide)).append
      (hdigits 2 _)
  have hclock : t.clockText.IsAscii :=
    (((((hdigits 2 _).append hcolon).append (hdigits 2 _)).append hcolon).append
      (hdigits 2 _)).append (hmicros _)
  have hoffset : ((t.offset.map offsetText).getD []).IsAscii := by
    cases t.offset with
    | none => exact nofun
    | some east =>
      have hsign : (if east < 0 then "-" else "+").toText.IsAscii := by
        split <;> decide
      rw [Option.map_some, Option.getD_some, offsetText]
      refine (((hsign.append (hdigits 2 _)).append hcolon).append (hdigits 2 _)).append ?_
      split
      · exact nofun
      · exact (hcolon.append (hdigits 2 _)).append (hmicros _)
  exact ((hdate.append (by decide)).append hclock).append hoffset

/-! ## Timestamps -/

/-- A number of microseconds is the timestamp of the one date-time in UTC that has this instant. -/
theorem ofEpochMicros?_eq_some_iff {n : Int} : ofEpochMicros? n = some t ↔
    t.date.IsValid ∧ t.clock < microsPerDay ∧ t.offset = some 0 ∧ t.instant? = some n := by
  refine ⟨instant?_of_ofEpochMicros?, ?_⟩
  rintro ⟨hd, hc, ho, hn⟩
  obtain ⟨date, clock, offset⟩ := t
  obtain rfl : offset = some 0 := ho
  have hinstant : date.dayNumber * microsPerDay + clock - 0 = n := Option.some.inj hn
  simp only at hd hc
  have hrange := Date.dayNumber_mem hd
  have hdays : n / (microsPerDay : Int) = date.dayNumber := by
    simp only [microsPerDay, microsPerSecond] at hc hinstant ⊢
    omega
  have hclock : (n % (microsPerDay : Int)).toNat = clock := by
    simp only [microsPerDay, microsPerSecond] at hc hinstant ⊢
    omega
  rw [ofEpochMicros?, hdays, hclock, if_pos hrange, Date.ofDayNumber_dayNumber hd]

end DateTime

namespace Scalar

variable {t : DateTime} {n : Int}

/-- An integer counts seconds from the epoch, or milliseconds when it is large. -/
theorem dateTime_int_eq_ok_iff (h : fitsWord n = true) : dateTime (.int n) = .ok t ↔
    t.date.IsValid ∧ t.clock < DateTime.microsPerDay ∧ t.offset = some 0 ∧
      t.instant? = some (if n.natAbs ≤ 20000000000 then n * 1000000 else n * 1000) := by
  have hread : orUnreadable (DateTime.ofIntTimestamp? n) = .ok t ↔
      DateTime.ofIntTimestamp? n = some t := by
    cases DateTime.ofIntTimestamp? n <;> simp [orUnreadable, Decoded.fail]
  rw [dateTime, dateTimeOfInt, if_pos h, hread]
  exact DateTime.ofEpochMicros?_eq_some_iff

/-- ISO text is the date-time that it is the text of. -/
theorem dateTime_text (hd : t.date.IsValid) (hc : t.clock < DateTime.microsPerDay)
    (ho : ∀ east, t.offset = some east → DateTime.IsOffset east) :
    dateTime (.text t.text) = .ok t := by
  have hplain : t.text.any CodePoint.isSurrogate = false := by
    refine List.any_eq_false.mpr fun c hc => ?_
    have hascii := t.isAscii_text c hc
    simp only [CodePoint.isSurrogate, decide_eq_true_eq]
    omega
  have hread : DateTime.read? t.text = some t := by
    rw [DateTime.read?, DateTime.readIso?_text hd hc ho]
    rfl
  simp only [dateTime, written, hplain, Except.bind, Bool.false_eq_true, ↓reduceIte, hread]
  rfl

example : dateTime (.text "2024-02-29T12:30:00.25+05:30".toText) =
      .ok ⟨⟨2024, 2, 29⟩, 45000250000, some 19800000000⟩ ∧
    dateTime (.int 1709190000) = .ok ⟨⟨2024, 2, 29⟩, 25200000000, some 0⟩ := by
  decide

end Scalar

end SubscriptionClient
