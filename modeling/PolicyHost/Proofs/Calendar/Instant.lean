import PolicyHost.Proofs.Calendar.Days
import PolicyHost.Calendar.Instant

/-!
# Instants moved by years, months and days

Which instant another one is moved to is said in terms of the calendar: the time of
day stays, the years and months lead to the first of a month, and the days are
counted from there one after the other (`MovedBy`). There is exactly one such instant
(`movedBy_iff`), be it in the range of timestamps or not.

`addDate?` finds it where it lies in that range and the counts before it stay in
theirs (`addDate?_eq_some_iff`). Three of these counts matter: the years as months,
the month that the years lead to, and the year that the months lead to (`Counted`).
The others cannot fail on their own, because a day that is out of their range is also
out of the range of timestamps.
-/

namespace PolicyHost.Calendar

variable {ns years months days r : Int}

/-- The date of an instant, counted day by day. -/
def civilDate (ns : Int) : Date :=
  Date.epoch.plusDays (ns / day)

/-- The index of the month that lies years and months behind that of a date. -/
def monthAfter (d : Date) (years months : Int) : Int :=
  12 * d.year + (d.month - 1) + 12 * years + months

/-- An instant is the one that another is moved to by years, months and days. -/
structure MovedBy (years months days ns r : Int) : Prop where
  timeOfDay : r % day = ns % day
  date : civilDate r =
    (Date.firstOfMonth (monthAfter (civilDate ns) years months)).plusDays
      ((civilDate ns).day - 1 + days)

/-- The counts that lead to a month stay in their ranges. -/
structure Counted (ns years months : Int) : Prop where
  inMonths : -2 ^ 63 ≤ 12 * years ∧ 12 * years < 2 ^ 63
  afterYears : -2 ^ 63 ≤ monthAfter (civilDate ns) years 0 ∧
    monthAfter (civilDate ns) years 0 < 2 ^ 63
  inYears : firstYear ≤ monthAfter (civilDate ns) years months / 12 ∧
    monthAfter (civilDate ns) years months / 12 ≤ lastYear

theorem day_eq : day = 86400000000000 := by decide

theorem dateOf_eq (ns : Int) : dateOf ns = civilDate ns :=
  Date.ofDayNumber_eq (ns / day)

theorem valid_civilDate (ns : Int) : (civilDate ns).Valid :=
  Date.valid_plusDays Date.valid_epoch (ns / day)

theorem dayNumber_civilDate (ns : Int) : (civilDate ns).dayNumber = ns / day := by
  rw [civilDate, Date.dayNumber_plusDays Date.valid_epoch, Date.dayNumber_epoch, Int.zero_add]

theorem monthIndex_add (d : Date) (years : Int) :
    d.monthIndex + years * 12 = monthAfter d years 0 := by
  rw [Date.monthIndex, monthAfter]
  omega

theorem monthAfter_add (d : Date) (years months : Int) :
    monthAfter d years 0 + months = monthAfter d years months := by
  rw [monthAfter, monthAfter, Int.add_zero]

/-- The number of the day that an instant is moved to. -/
def dayAfter (ns years months days : Int) : Int :=
  (Date.firstOfMonth (monthAfter (civilDate ns) years months)).dayNumber +
    ((civilDate ns).day - 1 + days)

theorem movedBy_iff :
    MovedBy years months days ns r ↔ dayAfter ns years months days * day + ns % day = r := by
  have hvalid := Date.valid_firstOfMonth (monthAfter (civilDate ns) years months)
  have hnumber := Date.dayNumber_plusDays hvalid ((civilDate ns).day - 1 + days)
  rw [← dayAfter] at hnumber
  have hdate : civilDate r = (Date.firstOfMonth (monthAfter (civilDate ns) years months)).plusDays
      ((civilDate ns).day - 1 + days) ↔ r / day = dayAfter ns years months days := by
    rw [← dayNumber_civilDate, ← hnumber]
    exact ⟨congrArg _, Date.dayNumber_inj (valid_civilDate r) (Date.valid_plusDays hvalid _)⟩
  rw [day_eq] at *
  constructor
  · intro ⟨htime, hday⟩
    rw [day_eq] at htime
    have hdays := hdate.mp hday
    omega
  · intro h
    have htime : r % day = ns % day := by
      rw [day_eq]
      omega
    exact ⟨htime, hdate.mpr (by omega)⟩

/-! ## Days on their own -/

theorem dayAfter_add (ns years months days : Int) :
    dayAfter ns years months days = dayAfter ns years months 0 + days := by
  rw [dayAfter, dayAfter]
  omega

/-- Without years and months an instant is moved from its own day. -/
theorem dayAfter_zero (ns days : Int) : dayAfter ns 0 0 days = ns / day + days := by
  have hmonth := monthIndex_add (civilDate ns) 0
  have hfirst := Date.dayNumber_firstOfMonth (valid_civilDate ns)
  rw [Int.zero_mul, Int.add_zero] at hmonth
  rw [hmonth, dayNumber_civilDate] at hfirst
  rw [dayAfter]
  omega

/-- A day has 86400 seconds, and moving by days alone adds as many of them. -/
theorem movedBy_days_iff : MovedBy 0 0 days ns r ↔ ns + days * day = r := by
  rw [movedBy_iff, dayAfter_zero, day_eq]
  omega

/-- Moving an instant by years and months first and by days afterwards is moving it by
all three at once. -/
theorem MovedBy.trans {s : Int} (hs : MovedBy years months 0 ns s) (hr : MovedBy 0 0 days s r) :
    MovedBy years months days ns r := by
  rw [movedBy_iff] at *
  rw [dayAfter_zero, day_eq] at hr
  rw [day_eq] at *
  rw [dayAfter_add]
  omega

theorem MovedBy.unique {s : Int} (hr : MovedBy years months days ns r)
    (hs : MovedBy years months days ns s) : r = s :=
  (movedBy_iff.mp hr).symm.trans (movedBy_iff.mp hs)

/-! ## The ranges on the way -/

/-- Moving an instant succeeds where the counts that lead to the month stay in their
ranges and the instant that is reached lies in the range of timestamps. -/
theorem addDate?_eq_some_iff :
    addDate? ns years months days = some r ↔
      Counted ns years months ∧ (-2 ^ 63 ≤ r ∧ r < 2 ^ 63) ∧ MovedBy years months days ns r := by
  have hfirst := Date.firstOfMonth_bounds (monthAfter (civilDate ns) years months)
  have hlast := Date.dayNumber_bounds (Date.valid_ofDayNumber (dayAfter ns years months days))
  have hyear : (Date.firstOfMonth (monthAfter (civilDate ns) years months)).year =
      monthAfter (civilDate ns) years months / 12 := rfl
  have hafter : (Date.firstOfMonth (monthAfter (civilDate ns) years months)).dayNumber +
      ((civilDate ns).day - 1 + days) = dayAfter ns years months days := rfl
  rw [Date.dayNumber_ofDayNumber] at hlast
  rw [movedBy_iff]
  simp only [addDate?, int64?, kept?, Option.bind_eq_bind, Option.bind_eq_some_iff,
    Option.ite_none_right_eq_some, Option.ite_none_left_eq_some, Option.some.injEq, and_assoc,
    exists_and_left, exists_eq_left', dateOf_eq, monthIndex_add, monthAfter_add, hafter, hyear]
  constructor
  · rintro ⟨hleast, hmost, hstart, hend, -, -, hkept, hkept', -, -, -, -, -, hr⟩
    exact ⟨⟨by omega, ⟨hstart, hend⟩, ⟨hkept, hkept'⟩⟩, by omega⟩
  · rintro ⟨⟨hmonths, hmonth, hkept⟩, hr⟩
    simp only [firstYear, lastYear, longestSpan, day_eq] at *
    omega

/-- The counts on the way stay in their ranges, if the years and days are not many and
the instant that is reached lies in the range of timestamps. -/
theorem counted_of_movedBy (hns : -2 ^ 63 ≤ ns ∧ ns < 2 ^ 63)
    (hyears : -2 ^ 59 ≤ years ∧ years ≤ 2 ^ 59) (hdays : -94000000 ≤ days ∧ days ≤ 94000000)
    (hr : -2 ^ 63 ≤ r ∧ r < 2 ^ 63) (h : MovedBy years months days ns r) :
    Counted ns years months := by
  have hdate := Date.dayNumber_bounds (valid_civilDate ns)
  have hfirst := Date.firstOfMonth_bounds (monthAfter (civilDate ns) years months)
  have hday := (valid_civilDate ns).day_le.1
  have hmonth := monthAfter_add (civilDate ns) years months
  obtain ⟨hjanuary, hdecember, hday', -⟩ := valid_civilDate ns
  rw [movedBy_iff, dayAfter, day_eq] at h
  rw [dayNumber_civilDate, day_eq] at hdate
  have hafter : monthAfter (civilDate ns) years 0 =
      12 * (civilDate ns).year + ((civilDate ns).month - 1) + 12 * years := by
    rw [monthAfter, Int.add_zero]
  refine ⟨by omega, by omega, ?_⟩
  rw [firstYear, lastYear]
  omega

theorem counted_zero (hns : -2 ^ 63 ≤ ns ∧ ns < 2 ^ 63) : Counted ns 0 0 := by
  have hstill : MovedBy 0 0 0 ns ns := by
    rw [movedBy_days_iff, Int.zero_mul, Int.add_zero]
  exact counted_of_movedBy hns (by decide) (by decide) hns hstill

end PolicyHost.Calendar
