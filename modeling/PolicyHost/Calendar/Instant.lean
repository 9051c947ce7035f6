import PolicyHost.Calendar.Date
import PolicyHost.Number.Power

/-!
# Instants

An instant is a number of nanoseconds since the start of 1970, kept in the
signed 64-bit range. `addDate?` moves one by years, months and days: the
years and months lead to the first of a month, the days are counted from
there, and the time of day stays. Every count on the way has a range of its
own, the date reached by years and months among them.
-/

namespace PolicyHost.Calendar

/-- The nanoseconds of a second. -/
def second : Int := 10 ^ 9

def day : Int := 86400 * second

def int64? (n : Int) : Option Int :=
  if -2 ^ 63 ≤ n ∧ n < 2 ^ 63 then some n else none

def dateOf (ns : Int) : Date :=
  .ofDayNumber (ns / day)

/-- The first and the last year that dates are kept for. -/
def firstYear : Int := -262143

@[inherit_doc firstYear]
def lastYear : Int := 262142

/-- The greatest number of days that a span of time may have. -/
def longestSpan : Int := (2 ^ 63 - 1) / 1000 / 86400

/-- A date, if its year is one that dates are kept for. -/
def kept? (d : Date) : Option Date :=
  if firstYear ≤ d.year ∧ d.year ≤ lastYear then some d else none

/-- The instant moved by years, months and days. -/
def addDate? (ns years months days : Int) : Option Int := do
  let date := dateOf ns
  let inYears ← int64? (years * 12)
  let index ← int64? (date.monthIndex + inYears)
  let index ← int64? (index + months)
  let first ← kept? (.firstOfMonth index)
  -- The day of the month is counted on from the first, so it may lead into the next month.
  let offset ← int64? ((date.day : Int) - 1 + days)
  if longestSpan < offset ∨ offset < -longestSpan then none
  else
    let moved := first.dayNumber + offset
    let _ ← kept? (.ofDayNumber moved)
    int64? (moved * day + ns % day)

end PolicyHost.Calendar
