import PolicyHost.Proofs.Calendar.Rfc3339
import PolicyHost.Builtin.Time
import PolicyHost.Proofs.Builtin.Operand

/-!
# Builtins on instants

An instant that is moved by years, months and days has the time of day that it had,
and the date that the calendar says (`addDate_civil`). The builtin refuses instants
out of the range of timestamps and no others, unless a count on the way to the month
leaves its own range (`addDate_refused`). Where days alone are added there is no such
count, and what is done is an addition (`addDate_days`).

A timestamp is read as the instant that it denotes, and its date is read back from that
(`parseTimestamp_text`).
-/

namespace PolicyHost.Builtin

open Json Calendar

variable {ns years months days : Int}

theorem instantAnswer_of_range {r : Int} (name : String) (hr : -2 ^ 63 ≤ r ∧ r < 2 ^ 63) :
    instantAnswer name (some r) = .ok (some (.ofInt r)) := by
  rw [instantAnswer, Option.bind_some, Calendar.int64?, if_pos hr]

section

variable (hns : -2 ^ 63 ≤ ns ∧ ns < 2 ^ 63) (hyears : -2 ^ 63 ≤ years ∧ years < 2 ^ 63)
  (hmonths : -2 ^ 63 ≤ months ∧ months < 2 ^ 63) (hdays : -2 ^ 63 ≤ days ∧ days < 2 ^ 63)

include hns hyears hmonths hdays

theorem addDate_ofInt :
    addDate [.ofInt ns, .ofInt years, .ofInt months, .ofInt days] =
      instantAnswer "time.add_date" (addDate? ns years months days) := by
  rw [addDate, integerOperand_ofInt hns rfl, integerOperand_ofInt hyears rfl,
    integerOperand_ofInt hmonths rfl, integerOperand_ofInt hdays rfl]
  rfl

/-- The two answers that there are: the instant that is reached, where there is one in
the range of timestamps and the counts stay in theirs, and a refusal otherwise. -/
theorem addDate_cases :
    (∃ r, Counted ns years months ∧ (-2 ^ 63 ≤ r ∧ r < 2 ^ 63) ∧
        MovedBy years months days ns r ∧
        addDate [.ofInt ns, .ofInt years, .ofInt months, .ofInt days] = .ok (some (.ofInt r))) ∨
      (¬ (Counted ns years months ∧
          ∃ r, (-2 ^ 63 ≤ r ∧ r < 2 ^ 63) ∧ MovedBy years months days ns r) ∧
        addDate [.ofInt ns, .ofInt years, .ofInt months, .ofInt days] =
          .error (.refused "time.add_date" .farInstant)) := by
  rw [addDate_ofInt hns hyears hmonths hdays]
  cases h : addDate? ns years months days with
  | some r =>
      obtain ⟨hcounted, hr, hmoved⟩ := addDate?_eq_some_iff.mp h
      exact Or.inl ⟨r, hcounted, hr, hmoved, instantAnswer_of_range _ hr⟩
  | none =>
      refine Or.inr ⟨?_, rfl⟩
      rintro ⟨hcounted, r, hr, hmoved⟩
      rw [addDate?_eq_some_iff.mpr ⟨hcounted, hr, hmoved⟩] at h
      cases h

theorem addDate_ok {answer : Option Value}
    (h : addDate [.ofInt ns, .ofInt years, .ofInt months, .ofInt days] = .ok answer) :
    ∃ r, (-2 ^ 63 ≤ r ∧ r < 2 ^ 63) ∧ answer = some (.ofInt r) ∧
      MovedBy years months days ns r := by
  rcases addDate_cases hns hyears hmonths hdays with ⟨r, -, hr, hmoved, hanswer⟩ | ⟨-, hrefused⟩
  · rw [hanswer] at h
    cases h
    exact ⟨r, hr, rfl, hmoved⟩
  · rw [hrefused] at h
    cases h

theorem addDate_error_iff :
    addDate [.ofInt ns, .ofInt years, .ofInt months, .ofInt days] =
        .error (.refused "time.add_date" .farInstant) ↔
      ¬ Counted ns years months ∨
        ¬ ∃ r, (-2 ^ 63 ≤ r ∧ r < 2 ^ 63) ∧ MovedBy years months days ns r := by
  rw [← not_and_or]
  rcases addDate_cases hns hyears hmonths hdays with ⟨r, hcounted, hr, hmoved, hanswer⟩ | h
  · rw [hanswer]
    exact iff_of_false (fun h => by cases h) (not_not_intro ⟨hcounted, r, hr, hmoved⟩)
  · exact iff_of_true h.2 h.1

/-- An instant that the builtin answers with has the time of day of the instant that
was moved, and its date is the one of the calendar: the first of the month that the
years and months lead to, and as many days on as the day of the month and the days
say. Moving by years and months and then by days comes to the same as moving by all of
them, where all three calls have an answer. -/
theorem addDate_civil :
    (∀ answer, addDate [.ofInt ns, .ofInt years, .ofInt months, .ofInt days] = .ok answer →
      ∃ r, (-2 ^ 63 ≤ r ∧ r < 2 ^ 63) ∧ answer = some (.ofInt r) ∧
        MovedBy years months days ns r) ∧
    (∀ (v : Value) (answer answer' : Option Value),
      addDate [.ofInt ns, .ofInt years, .ofInt months, .ofInt days] = .ok answer →
      addDate [.ofInt ns, .ofInt years, .ofInt months, .ofInt 0] = .ok (some v) →
      addDate [v, .ofInt 0, .ofInt 0, .ofInt days] = .ok answer' → answer' = answer) := by
  refine ⟨fun answer h => addDate_ok hns hyears hmonths hdays h, fun v answer answer' h hv h' => ?_⟩
  obtain ⟨r, -, rfl, hr⟩ := addDate_ok hns hyears hmonths hdays h
  obtain ⟨s, hsrange, hvalue, hs⟩ := addDate_ok hns hyears hmonths (by decide) hv
  cases hvalue
  obtain ⟨t, -, rfl, ht⟩ := addDate_ok hsrange (by decide) (by decide) hdays h'
  rw [hr.unique (hs.trans ht)]

/-- The builtin refuses where the instant that the calendar says is out of the range of
timestamps, and where a count on the way to its month is out of its own range. It
fails in no other way. The first of the two is all there is, unless the years or the
days are very many. -/
theorem addDate_refused :
    (addDate [.ofInt ns, .ofInt years, .ofInt months, .ofInt days] =
        .error (.refused "time.add_date" .farInstant) ↔
      ¬ Counted ns years months ∨
        ¬ ∃ r, (-2 ^ 63 ≤ r ∧ r < 2 ^ 63) ∧ MovedBy years months days ns r) ∧
    (∀ failure, addDate [.ofInt ns, .ofInt years, .ofInt months, .ofInt days] = .error failure →
      failure = .refused "time.add_date" .farInstant ∧
        failure.message = "time.add_date: timestamp out of range") ∧
    (-2 ^ 59 ≤ years ∧ years ≤ 2 ^ 59 → -94000000 ≤ days ∧ days ≤ 94000000 →
      (addDate [.ofInt ns, .ofInt years, .ofInt months, .ofInt days] =
          .error (.refused "time.add_date" .farInstant) ↔
        ¬ ∃ r, (-2 ^ 63 ≤ r ∧ r < 2 ^ 63) ∧ MovedBy years months days ns r)) := by
  have hrefused := addDate_error_iff hns hyears hmonths hdays
  refine ⟨hrefused, fun failure h => ?_, fun hfew hnear => hrefused.trans ?_⟩
  · rcases addDate_cases hns hyears hmonths hdays with ⟨r, -, -, -, hanswer⟩ | ⟨-, hfailure⟩
    · rw [hanswer] at h
      cases h
    · rw [hfailure] at h
      cases h
      exact ⟨rfl, by decide⟩
  · refine or_iff_right_of_imp fun hcounted hreached => hcounted ?_
    obtain ⟨r, hr, hmoved⟩ := hreached
    exact counted_of_movedBy hns hfew hnear hr hmoved

end

/-- A nanosecond before 1970, two months on: there is no 31 February, so it becomes the
3rd of March. -/
theorem addDate_civil_beforeEpoch :
    let ns : Int := -1
    let r : Int := 5356799999999999
    ((-2 ^ 63 ≤ ns ∧ ns < 2 ^ 63) ∧
      addDate [.ofInt ns, .ofInt 0, .ofInt 2, .ofInt 0] = .ok (some (.ofInt r))) ∧
      MovedBy 0 2 0 ns r ∧ civilDate r = ⟨1970, 3, 3⟩ := by
  intro ns r
  have hns : -2 ^ 63 ≤ ns ∧ ns < 2 ^ 63 := by decide
  have hreached : addDate? ns 0 2 0 = some r := by decide
  have hanswer : addDate [.ofInt ns, .ofInt 0, .ofInt 2, .ofInt 0] = .ok (some (.ofInt r)) := by
    rw [addDate_ofInt hns (by decide) (by decide) (by decide), hreached]
    exact instantAnswer_of_range _ (by decide)
  obtain ⟨s, hs, hvalue, hmoved⟩ :=
    (addDate_civil hns (by decide) (by decide) (by decide)).1 _ hanswer
  have hsame : r = s := ofInt_inj (by decide) (by omega) (Option.some.inj hvalue)
  rw [← hsame] at hmoved
  refine ⟨⟨hns, hanswer⟩, hmoved, ?_⟩
  rw [← dateOf_eq]
  decide

theorem addDate_refused_lastDay :
    let ns : Int := 2 ^ 63 - 1
    (-2 ^ 63 ≤ ns ∧ ns < 2 ^ 63) ∧
      (addDate [.ofInt ns, .ofInt 0, .ofInt 0, .ofInt 1] =
          .error (.refused "time.add_date" .farInstant) ↔
        ¬ ∃ r, (-2 ^ 63 ≤ r ∧ r < 2 ^ 63) ∧ MovedBy 0 0 1 ns r) := by
  intro ns
  have hns : -2 ^ 63 ≤ ns ∧ ns < 2 ^ 63 := by decide
  exact ⟨hns, (addDate_refused hns (by decide) (by decide) (by decide)).2.2 (by decide)
    (by decide)⟩

/-- Years that months take back, and years that days take back: the epoch would be moved
to itself both times, but on the way there the months are too many for 64 bits, and the
year is one that dates are not kept for. -/
theorem addDate_refuses_epoch :
    (MovedBy 768614336404564650 (-9223372036854775800) 0 0 0 ∧
      addDate [.ofInt 0, .ofInt 768614336404564650, .ofInt (-9223372036854775800), .ofInt 0] =
        .error (.refused "time.add_date" .farInstant)) ∧
    (MovedBy 300000 0 (-109572750) 0 0 ∧
      addDate [.ofInt 0, .ofInt 300000, .ofInt 0, .ofInt (-109572750)] =
        .error (.refused "time.add_date" .farInstant)) := by
  refine ⟨⟨movedBy_iff.mpr (by decide), rfl⟩, movedBy_iff.mpr (by decide), rfl⟩

/-! ## Days alone -/

theorem int64_zero : -2 ^ 63 ≤ (0 : Int) ∧ (0 : Int) < 2 ^ 63 := by decide

section

variable (hns : -2 ^ 63 ≤ ns ∧ ns < 2 ^ 63) (hdays : -2 ^ 63 ≤ days ∧ days < 2 ^ 63)

include hns hdays

theorem addDate_days_ok (hr : -2 ^ 63 ≤ ns + days * day ∧ ns + days * day < 2 ^ 63) :
    addDate [.ofInt ns, .ofInt 0, .ofInt 0, .ofInt days] =
      .ok (some (.ofInt (ns + days * day))) := by
  have hmoved : MovedBy 0 0 days ns (ns + days * day) := movedBy_days_iff.mpr rfl
  rcases addDate_cases hns int64_zero int64_zero hdays with ⟨r, -, -, hr', hanswer⟩ | ⟨hnot, -⟩
  · rw [hanswer, hr'.unique hmoved]
  · exact absurd ⟨counted_zero hns, _, hr, hmoved⟩ hnot

/-- Moving an instant by days alone is addition, from the first instant to the last: as
many times 86400 seconds are added as there are days, and what leaves the range of
timestamps is refused. No days at all leave the instant as it is. -/
theorem addDate_days :
    addDate [.ofInt ns, .ofInt 0, .ofInt 0, .ofInt days] =
      (if -2 ^ 63 ≤ ns + days * (86400 * 10 ^ 9) ∧ ns + days * (86400 * 10 ^ 9) < 2 ^ 63 then
        .ok (some (.ofInt (ns + days * (86400 * 10 ^ 9))))
      else .error (.refused "time.add_date" .farInstant)) ∧
    addDate [.ofInt ns, .ofInt 0, .ofInt 0, .ofInt 0] = .ok (some (.ofInt ns)) := by
  have hlength : (86400 * 10 ^ 9 : Int) = day := by decide
  rw [hlength]
  constructor
  · split
    · next hr => exact addDate_days_ok hns hdays hr
    · next hfar =>
        rw [addDate_error_iff hns int64_zero int64_zero hdays]
        right
        rintro ⟨r, hr, hmoved⟩
        rw [movedBy_days_iff] at hmoved
        omega
  · have hstill : ns + 0 * day = ns := by omega
    have h := addDate_days_ok hns int64_zero (by rwa [hstill])
    rwa [hstill] at h

end

/-- From the first instant there are 213503 days to the last day of all, and no more. -/
theorem addDate_days_acrossRange :
    let ns : Int := -2 ^ 63
    (-2 ^ 63 ≤ ns ∧ ns < 2 ^ 63) ∧
    ((-2 ^ 63 ≤ (213503 : Int) ∧ (213503 : Int) < 2 ^ 63) ∧
      addDate [.ofInt ns, .ofInt 0, .ofInt 0, .ofInt 213503] =
        .ok (some (.ofInt 9223287163145224192))) ∧
    (-2 ^ 63 ≤ (213504 : Int) ∧ (213504 : Int) < 2 ^ 63) ∧
      addDate [.ofInt ns, .ofInt 0, .ofInt 0, .ofInt 213504] =
        .error (.refused "time.add_date" .farInstant) := by
  intro ns
  have hns : -2 ^ 63 ≤ ns ∧ ns < 2 ^ 63 := by decide
  have hmost : -2 ^ 63 ≤ (213503 : Int) ∧ (213503 : Int) < 2 ^ 63 := by decide
  have hmore : -2 ^ 63 ≤ (213504 : Int) ∧ (213504 : Int) < 2 ^ 63 := by decide
  refine ⟨hns, ⟨hmost, ?_⟩, hmore, ?_⟩
  · rw [(addDate_days hns hmost).1, if_pos (by decide)]
    rfl
  · rw [(addDate_days hns hmore).1, if_neg (by decide)]

/-! ## Timestamps -/

section

open Rfc3339

variable {t : Timestamp} (hyear : 1678 ≤ t.date.year ∧ t.date.year ≤ 2261)

include hyear

theorem parseTimestamp_eq :
    parseTimestamp [text t.text] = .ok (some (.ofInt t.instant)) := by
  have hread : Rfc3339.instant (String.ofList t.text).toUTF8.toList = .ok t.instant := by
    rw [Guest.toUTF8_toList, t.instant_text]
  simp only [parseTimestamp, textOperand, operand, text, List.getElem?_cons_zero,
    String.toList_ofList, hread, bind, Except.bind]
  exact instantAnswer_of_range _ (t.instant_range hyear)

theorem date_instant (huniversal : t.offset.seconds = 0) :
    date [.ofInt t.instant] =
      .ok (some (.array [.ofInt t.date.year, .ofInt t.date.month, .ofInt t.date.day])) := by
  have hread : integerOperand "time.date" [.ofInt t.instant] 0 = .ok t.instant :=
    integerOperand_ofInt (t.instant_range hyear) rfl _
  simp only [date, hread, t.dateOf_instant huniversal, bind, Except.bind, pure, Except.pure]

/-- A timestamp of a year that lies whole in the range is read as the instant that it
denotes: the days from 1970 to its date, its time of day without its offset, and its
fraction. So two timestamps are read as one integer exactly when they denote one instant,
and where a timestamp is told in universal time, its date is read back from the integer. -/
theorem parseTimestamp_text :
    (-2 ^ 63 ≤ t.instant ∧ t.instant < 2 ^ 63) ∧ Date.epoch.plusDays t.date.dayNumber = t.date ∧
    parseTimestamp [text t.text] = .ok (some (.ofInt t.instant)) ∧
    (∀ other : Timestamp, 1678 ≤ other.date.year ∧ other.date.year ≤ 2261 →
      (parseTimestamp [text other.text] =
          parseTimestamp [text t.text] ↔ other.instant = t.instant)) ∧
    (t.offset.seconds = 0 → date [.ofInt t.instant] =
      .ok (some (.array [.ofInt t.date.year, .ofInt t.date.month, .ofInt t.date.day]))) := by
  have hrange := t.instant_range hyear
  refine ⟨hrange, ?_, parseTimestamp_eq hyear, fun other hother => ?_, date_instant hyear⟩
  · rw [← Date.ofDayNumber_eq, Date.ofDayNumber_dayNumber t.valid_date]
  · have hother' := other.instant_range hother
    rw [parseTimestamp_eq hyear, parseTimestamp_eq hother]
    constructor
    · intro h
      exact ofInt_inj (by omega) (by omega) (Option.some.inj (Except.ok.inj h))
    · intro h
      rw [h]

end

/-- The last quarter of a second of 1996 in a place eight hours behind universal time. -/
def newYearsEve : Rfc3339.Timestamp where
  date := ⟨1996, 12, 31⟩
  separator := 'T'
  clock := ⟨23, 59, 59, 2, 75, by decide, by decide, by decide, by decide, by decide⟩
  offset := .shifted true 8 0 (by decide) (by decide)
  valid_date := by decide
  year_range := by decide
  mem_separator := by decide

theorem parseTimestamp_text_newYearsEve :
    (1678 ≤ newYearsEve.date.year ∧ newYearsEve.date.year ≤ 2261) ∧
      parseTimestamp [.string "1996-12-31T23:59:59.75-08:00"] =
        .ok (some (.ofInt 852105599750000000)) := by
  have hyear : 1678 ≤ newYearsEve.date.year ∧ newYearsEve.date.year ≤ 2261 := by decide
  exact ⟨hyear, (parseTimestamp_text hyear).2.2.1⟩

end PolicyHost.Builtin
