import Mathlib.Logic.Function.Iterate
import Mathlib.Tactic.IntervalCases
import PolicyHost.Calendar.Date

/-!
# Days, one after the other

The calendar told day by day: the day after a date is the next one of its month, or
the first of the next month, or the first of the next year (`Date.next`), and days
are counted on and back by steps of that kind (`Date.plusDays`). Day numbers count
these steps (`dayNumber_plusDays`), and the date with a day number is the one that so
many steps lead to from the first of 1970 (`ofDayNumber_eq`).

A day number is made of three counts: eras of 400 years, years of the era, days of
the year, where years begin in March. All that has to be known about them is how many
days a year can have (`dayOfYear_lt`), that the months of a year are found again
(`month_of_dayOfYear`), and that its years are (`yearOfEra_eq`).
-/

namespace PolicyHost.Calendar

theorem isLeap_iff (year : Int) :
    isLeap year = true ↔ year % 4 = 0 ∧ (year % 100 ≠ 0 ∨ year % 400 = 0) := by
  simp [isLeap]

theorem monthLength_pos (year : Int) (month : Nat) : 1 ≤ monthLength year month := by
  simp only [monthLength]
  repeat' split
  all_goals decide

namespace Date

/-! ## The calendar -/

/-- The first of January 1970, the day that day numbers are counted from. -/
def epoch : Date := ⟨1970, 1, 1⟩

/-- The day after a date. -/
def next (d : Date) : Date :=
  if d.day < monthLength d.year d.month then ⟨d.year, d.month, d.day + 1⟩
  else if d.month < 12 then ⟨d.year, d.month + 1, 1⟩
  else ⟨d.year + 1, 1, 1⟩

/-- The day before a date. -/
def previous (d : Date) : Date :=
  if 1 < d.day then ⟨d.year, d.month, d.day - 1⟩
  else if 1 < d.month then ⟨d.year, d.month - 1, monthLength d.year (d.month - 1)⟩
  else ⟨d.year - 1, 12, 31⟩

/-- The date a number of days after another one, or before it. -/
def plusDays (d : Date) : Int → Date
  | .ofNat n => next^[n] d
  | .negSucc n => previous^[n + 1] d

variable {d : Date}

theorem Valid.next (h : d.Valid) : d.next.Valid := by
  obtain ⟨hmonth, hmonth', hday, hday'⟩ := h
  rw [Date.next]
  split
  · next hinside => exact ⟨hmonth, hmonth', by simp, hinside⟩
  · split
    · next hlater => exact ⟨by simp, hlater, Nat.le_refl 1, monthLength_pos _ _⟩
    · exact ⟨Nat.le_refl 1, Nat.le_add_left 1 11, Nat.le_refl 1, monthLength_pos _ _⟩

theorem Valid.previous (h : d.Valid) : d.previous.Valid := by
  obtain ⟨hmonth, hmonth', hday, hday'⟩ := h
  rw [Date.previous]
  split
  · exact ⟨hmonth, hmonth', by simp only; omega, by simp only; omega⟩
  · split
    · exact ⟨by simp only; omega, by simp only; omega, monthLength_pos _ _, Nat.le_refl _⟩
    · exact ⟨Nat.le_add_left 1 11, Nat.le_refl 12, Nat.le_add_left 1 30, Nat.le_refl 31⟩

/-- Counting on from the day before a date leads to the date. -/
theorem next_previous (h : d.Valid) : d.previous.next = d := by
  obtain ⟨year, month, day⟩ := d
  obtain ⟨hmonth, hmonth', hday, hday'⟩ := h
  simp only at hmonth hmonth' hday hday'
  rw [Date.previous]
  simp only
  split
  · have hinside : day - 1 < monthLength year month := by omega
    rw [next, if_pos hinside, Nat.sub_add_cancel hday]
  · have hfirst : day = 1 := by omega
    split
    · have hlater : month - 1 < 12 := by omega
      rw [next, if_neg (Nat.lt_irrefl _), if_pos hlater, Nat.sub_add_cancel hmonth, hfirst]
    · have hjanuary : month = 1 := by omega
      have hlast : ¬ 31 < monthLength (year - 1) 12 := Nat.lt_irrefl 31
      rw [next, if_neg hlast, if_neg (Nat.lt_irrefl 12), Int.sub_add_cancel, hjanuary, hfirst]

/-! ## Years that begin in March -/

/-- The year of a date, where years begin in March. -/
def marchYear (d : Date) : Int :=
  if d.month ≤ 2 then d.year - 1 else d.year

/-- The number of days from the first of March to a date. -/
def dayOfYear (d : Date) : Int :=
  (153 * ((d.month + 9) % 12 : Int) + 2) / 5 + d.day - 1

/-- The number of days from the start of an era to a year of it. -/
def yearStart (year : Int) : Int :=
  year * 365 + year / 4 - year / 100

theorem dayNumber_eq (d : Date) :
    d.dayNumber = d.marchYear / 400 * 146097 +
      (yearStart (d.marchYear % 400) + d.dayOfYear) - 719468 := by
  simp only [dayNumber, marchYear, yearStart, dayOfYear]

theorem Valid.day_le (h : d.Valid) :
    d.day ≤ 31 ∧ (d.month = 4 ∨ d.month = 6 ∨ d.month = 9 ∨ d.month = 11 → d.day ≤ 30) ∧
      (d.month = 2 → d.day < 29 ∨ d.day = 29 ∧ isLeap d.year = true) := by
  obtain ⟨-, -, -, hday⟩ := h
  rw [monthLength] at hday
  split at hday
  · split at hday
    · next hyear =>
        exact ⟨by omega, by omega, fun _ => (Nat.lt_or_eq_of_le hday).imp_right (⟨·, hyear⟩)⟩
    · exact ⟨by omega, by omega, fun _ => Or.inl (by omega)⟩
  · split at hday <;> exact ⟨by omega, by omega, by omega⟩

/-- A year has 365 days, and one more where its February, which is the last of its
months, has a leap day. -/
theorem dayOfYear_lt (h : d.Valid) :
    0 ≤ d.dayOfYear ∧ (d.dayOfYear < 365 ∨
      d.dayOfYear = 365 ∧ d.marchYear % 4 = 3 ∧
        (d.marchYear % 100 ≠ 99 ∨ d.marchYear % 400 = 399)) := by
  have hlengths := h.day_le
  have hleap := isLeap_iff d.year
  obtain ⟨hmonth, hmonth', hday, -⟩ := h
  rw [dayOfYear, marchYear]
  by_cases hfebruary : d.month = 2
  · rw [hfebruary]
    rcases hlengths.2.2 hfebruary with hcommon | ⟨hlast, hyear⟩
    · omega
    · have hdivides := hleap.mp hyear
      rw [if_pos (Nat.le_refl 2)]
      omega
  · omega

/-- The month that a day of the year lies in, counted from March. -/
theorem month_of_dayOfYear (h : d.Valid) :
    (5 * d.dayOfYear + 2) / 153 = ((d.month + 9) % 12 : Int) := by
  obtain ⟨hmost, hshort, hfebruary⟩ := h.day_le
  obtain ⟨hmonth, hmonth', hday, -⟩ := h
  rw [dayOfYear]
  obtain ⟨year, month, day⟩ := d
  simp only at *
  interval_cases month <;> omega

/-- The year of an era that a day of it lies in. Where the fourth year of four, or
the hundredth of a hundred, has one day more or less than the others, the formula
makes up for it in advance. -/
theorem yearOfEra_eq {year t n : Int} (hyear : 0 ≤ year ∧ year < 400) (ht : 0 ≤ t)
    (hlong : t < 365 ∨ t = 365 ∧ year % 4 = 3 ∧ (year % 100 ≠ 99 ∨ year = 399))
    (hn : n = yearStart year + t) :
    (n - n / 1460 + n / 36524 - n / 146096) / 365 = year := by
  obtain ⟨c, q, z, hc, hq, hz, rfl⟩ : ∃ c q z : Int,
      (0 ≤ c ∧ c ≤ 3) ∧ (0 ≤ q ∧ q ≤ 24) ∧ (0 ≤ z ∧ z ≤ 3) ∧ year = 100 * c + 4 * q + z :=
    ⟨year / 100, year % 100 / 4, year % 4, by omega, by omega, by omega, by omega⟩
  have hsplit : n = 36524 * c + (1461 * q + 365 * z + t) := by
    rw [hn, yearStart]
    omega
  have hlast : t < 365 ∨ t = 365 ∧ z = 3 ∧ (q ≤ 23 ∨ c = 3) := by omega
  clear hn hlong hyear
  have hcentury : n / 36524 - n / 146096 = c := by
    by_cases hend : n = 146096
    · omega
    · have hera : n / 146096 = 0 := by omega
      omega
  have hfour : n / 1460 = 25 * c + q + if 1460 ≤ 24 * c + q + 365 * z + t then 1 else 0 := by
    split <;> omega
  split at hfour <;> omega

/-! ## Steps and day numbers -/

theorem dayNumber_add (year : Int) (month day k : Nat) :
    dayNumber ⟨year, month, day + k⟩ = dayNumber ⟨year, month, day⟩ + k := by
  simp only [dayNumber]
  omega

/-- The first of a month and the first of the next are a month apart. -/
theorem dayNumber_month (year : Int) {month : Nat} (h : 1 ≤ month) (h' : month < 12) :
    dayNumber ⟨year, month + 1, 1⟩ = dayNumber ⟨year, month, 1⟩ + monthLength year month := by
  rw [dayNumber_eq, dayNumber_eq]
  by_cases hfebruary : month = 2
  · subst hfebruary
    have hleap := isLeap_iff year
    have hbefore : marchYear ⟨year, 2, 1⟩ = year - 1 := rfl
    have hbehind : marchYear ⟨year, 2 + 1, 1⟩ = year := rfl
    have hstart : dayOfYear ⟨year, 2, 1⟩ = 337 := by simp [dayOfYear]
    have hend : dayOfYear ⟨year, 2 + 1, 1⟩ = 0 := by simp [dayOfYear]
    have hlength : monthLength year 2 = if isLeap year then 29 else 28 := rfl
    rw [hbefore, hbehind, hstart, hend, hlength, yearStart, yearStart]
    split
    · next hyear =>
        have hdivides := hleap.mp hyear
        omega
    · next hyear =>
        have hdivides := mt hleap.mpr hyear
        omega
  · have hyear : marchYear ⟨year, month + 1, 1⟩ = marchYear ⟨year, month, 1⟩ := by
      simp only [marchYear]
      split <;> split <;> omega
    have hdays : dayOfYear ⟨year, month + 1, 1⟩ =
        dayOfYear ⟨year, month, 1⟩ + monthLength year month := by
      simp only [dayOfYear, monthLength]
      interval_cases month
      case «2» => exact absurd rfl hfebruary
      all_goals rfl
    rw [hyear, hdays]
    omega

theorem dayNumber_year (year : Int) :
    dayNumber ⟨year + 1, 1, 1⟩ = dayNumber ⟨year, 12, 31⟩ + 1 := by
  have hbefore : marchYear ⟨year, 12, 31⟩ = year := rfl
  have hbehind : marchYear ⟨year + 1, 1, 1⟩ = year := Int.add_sub_cancel year 1
  have hstart : dayOfYear ⟨year, 12, 31⟩ = 305 := by simp [dayOfYear]
  have hend : dayOfYear ⟨year + 1, 1, 1⟩ = 306 := by simp [dayOfYear]
  rw [dayNumber_eq, dayNumber_eq, hbefore, hbehind, hstart, hend]
  omega

theorem dayNumber_next (h : d.Valid) : d.next.dayNumber = d.dayNumber + 1 := by
  obtain ⟨year, month, day⟩ := d
  obtain ⟨hmonth, hmonth', hday, hday'⟩ := h
  simp only at hmonth hmonth' hday hday'
  rw [next]
  simp only
  split
  · exact dayNumber_add year month day 1
  · have hlast : day = 1 + (monthLength year month - 1) := by omega
    split
    · next hlater =>
        rw [dayNumber_month year hmonth hlater, hlast, dayNumber_add]
        omega
    · have hdecember : month = 12 := by omega
      subst hdecember
      have hend : day = 31 := by rw [hlast]; rfl
      rw [dayNumber_year, hend]

theorem dayNumber_previous (h : d.Valid) : d.previous.dayNumber = d.dayNumber - 1 := by
  have hstep := dayNumber_next h.previous
  rw [next_previous h] at hstep
  omega

theorem valid_plusDays (h : d.Valid) (k : Int) : (d.plusDays k).Valid := by
  cases k with
  | ofNat n =>
      rw [plusDays]
      induction n with
      | zero => exact h
      | succ n ih =>
          rw [Function.iterate_succ_apply']
          exact ih.next
  | negSucc n =>
      rw [plusDays]
      induction n with
      | zero => exact h.previous
      | succ n ih =>
          rw [Function.iterate_succ_apply']
          exact ih.previous

/-- Day numbers count days. -/
theorem dayNumber_plusDays (h : d.Valid) (k : Int) :
    (d.plusDays k).dayNumber = d.dayNumber + k := by
  cases k with
  | ofNat n =>
      induction n with
      | zero => exact (Int.add_zero _).symm
      | succ n ih =>
          have hvalid := valid_plusDays h (.ofNat n)
          rw [plusDays] at ih hvalid ⊢
          rw [Function.iterate_succ_apply', dayNumber_next hvalid, ih]
          exact Int.add_assoc _ _ _
  | negSucc n =>
      induction n with
      | zero => exact dayNumber_previous h
      | succ n ih =>
          have hvalid := valid_plusDays h (.negSucc n)
          rw [plusDays] at ih hvalid ⊢
          rw [Function.iterate_succ_apply', dayNumber_previous hvalid, ih]
          omega

/-! ## Dates found again -/

/-- The era of a date, and which day of its era it is. -/
theorem era_of_dayNumber (h : d.Valid) :
    (d.dayNumber + 719468) / 146097 = d.marchYear / 400 ∧
      (d.dayNumber + 719468) % 146097 = yearStart (d.marchYear % 400) + d.dayOfYear := by
  have hday := dayOfYear_lt h
  have hnumber : d.dayNumber + 719468 =
      d.marchYear / 400 * 146097 + (yearStart (d.marchYear % 400) + d.dayOfYear) := by
    rw [dayNumber_eq, Int.sub_add_cancel]
  rw [hnumber, yearStart]
  omega

theorem month_of_marchMonth (h : d.Valid) :
    (if ((d.month + 9) % 12 : Int) < 10 then ((d.month + 9) % 12 : Int) + 3
      else (d.month + 9) % 12 - 9) = d.month := by
  obtain ⟨hmonth, hmonth', -, -⟩ := h
  split <;> omega

theorem year_of_marchYear (d : Date) :
    (if (d.month : Int) ≤ 2 then d.marchYear + 1 else d.marchYear) = d.year := by
  rw [marchYear]
  split <;> split <;> omega

theorem ofDayNumber_dayNumber (h : d.Valid) : ofDayNumber d.dayNumber = d := by
  obtain ⟨hera, hdayOfEra⟩ := era_of_dayNumber h
  obtain ⟨hday, hlong⟩ := dayOfYear_lt h
  have hrange : 0 ≤ d.marchYear % 400 ∧ d.marchYear % 400 < 400 := by omega
  have hyearOfEra := yearOfEra_eq hrange hday (by omega) rfl
  have hdayOfYear : yearStart (d.marchYear % 400) + d.dayOfYear -
      (365 * (d.marchYear % 400) + d.marchYear % 400 / 4 - d.marchYear % 400 / 100) =
        d.dayOfYear := by
    rw [yearStart]
    omega
  have hyears : d.marchYear % 400 + d.marchYear / 400 * 400 = d.marchYear := by omega
  have hdays : d.dayOfYear - (153 * ((d.month + 9) % 12 : Int) + 2) / 5 + 1 = d.day := by
    rw [dayOfYear]
    omega
  simp only [ofDayNumber, hera, hdayOfEra, hyearOfEra, hdayOfYear, month_of_dayOfYear h,
    month_of_marchMonth h, hyears, year_of_marchYear, hdays, Int.toNat_natCast]

theorem dayNumber_inj {e : Date} (hd : d.Valid) (he : e.Valid) (h : d.dayNumber = e.dayNumber) :
    d = e := by
  rw [← ofDayNumber_dayNumber hd, h, ofDayNumber_dayNumber he]

theorem valid_epoch : epoch.Valid := by decide

theorem dayNumber_epoch : epoch.dayNumber = 0 := by decide

/-- The date with a day number is so many days from the first of 1970. -/
theorem ofDayNumber_eq (n : Int) : ofDayNumber n = epoch.plusDays n := by
  have hnumber := dayNumber_plusDays valid_epoch n
  rw [dayNumber_epoch, Int.zero_add] at hnumber
  rw [← ofDayNumber_dayNumber (valid_plusDays valid_epoch n), hnumber]

theorem valid_ofDayNumber (n : Int) : (ofDayNumber n).Valid := by
  rw [ofDayNumber_eq]
  exact valid_plusDays valid_epoch n

theorem dayNumber_ofDayNumber (n : Int) : (ofDayNumber n).dayNumber = n := by
  rw [ofDayNumber_eq, dayNumber_plusDays valid_epoch, dayNumber_epoch, Int.zero_add]

/-! ## Months -/

theorem valid_firstOfMonth (index : Int) : (firstOfMonth index).Valid := by
  have hmonth : (index % 12).toNat + 1 ≤ 12 := by omega
  exact ⟨Nat.le_add_left 1 _, hmonth, Nat.le_refl 1, monthLength_pos _ _⟩

/-- A date lies as many days behind the first of its month as it says. -/
theorem dayNumber_firstOfMonth (h : d.Valid) :
    (firstOfMonth d.monthIndex).dayNumber + (d.day - 1) = d.dayNumber := by
  obtain ⟨year, month, day⟩ := d
  obtain ⟨hmonth, hmonth', hday, -⟩ := h
  simp only at hmonth hmonth' hday
  have hfirst : firstOfMonth (monthIndex ⟨year, month, day⟩) = ⟨year, month, 1⟩ := by
    simp only [firstOfMonth, monthIndex, Date.mk.injEq, and_true]
    omega
  have hdays := dayNumber_add year month 1 (day - 1)
  rw [Nat.add_sub_cancel' hday] at hdays
  rw [hfirst, hdays, Int.ofNat_sub hday]
  rfl

/-- Four hundred years have 146097 days, and no date is further than two years from
the place that this mean gives it. -/
theorem dayNumber_bounds (h : d.Valid) :
    146097 * (d.year - 1971) ≤ 400 * d.dayNumber ∧
      400 * d.dayNumber ≤ 146097 * (d.year - 1968) := by
  obtain ⟨hday, hlong⟩ := dayOfYear_lt h
  have hyear : d.year - 1 ≤ d.marchYear ∧ d.marchYear ≤ d.year := by
    rw [marchYear]
    split <;> omega
  rw [dayNumber_eq, yearStart]
  omega

/-- The first and the last year that lie whole within 2^63 nanoseconds of 1970. -/
theorem dayNumber_range (h : d.Valid) (hyear : 1678 ≤ d.year ∧ d.year ≤ 2261) :
    -106651 ≤ d.dayNumber ∧ d.dayNumber ≤ 106711 := by
  have hday := (dayOfYear_lt h).2
  obtain ⟨hmonth, hmonth', hfirst, -⟩ := h
  have hstart : d.marchYear = d.year - 1 ∧ 306 ≤ d.dayOfYear ∨
      d.marchYear = d.year ∧ 0 ≤ d.dayOfYear := by
    rw [marchYear, dayOfYear]
    split <;> omega
  rw [dayNumber_eq, yearStart]
  omega

theorem firstOfMonth_bounds (index : Int) :
    146097 * (index / 12 - 1971) ≤ 400 * (firstOfMonth index).dayNumber ∧
      400 * (firstOfMonth index).dayNumber ≤ 146097 * (index / 12 - 1968) :=
  dayNumber_bounds (valid_firstOfMonth index)

end Date

end PolicyHost.Calendar
