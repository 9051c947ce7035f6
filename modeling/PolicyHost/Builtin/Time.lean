import PolicyHost.Builtin.Operand

/-!
# Builtins on instants

Instants are nanoseconds since the start of 1970, in universal time. The
present instant is a reading of a clock that the caller supplies.
-/

namespace PolicyHost.Builtin

open Json Calendar

/-- An instant as a value, if it lies in the range of timestamps. -/
def instantAnswer (name : String) (ns : Option Int) : Answer :=
  match ns.bind Calendar.int64? with
  | some ns => .ok (some (.ofInt ns))
  | none => .error (.refused name .farInstant)

def now (clock : Int) : Answer :=
  instantAnswer "time.now_ns" clock

def parseTimestamp (operands : List Value) : Answer := do
  let cs ← textOperand "time.parse_rfc3339_ns" operands 0
  match Rfc3339.instant (String.ofList cs).toUTF8.toList with
  | .ok ns => instantAnswer "time.parse_rfc3339_ns" ns
  | .error fault => throw (.refused "time.parse_rfc3339_ns" (.badTimestamp fault))

/-- The year, month and day of an instant. -/
def date (operands : List Value) : Answer := do
  let d := dateOf (← integerOperand "time.date" operands 0)
  return some (.array [.ofInt d.year, .ofInt d.month, .ofInt d.day])

/-- An instant moved by years, months and days. -/
def addDate (operands : List Value) : Answer := do
  let ns ← integerOperand "time.add_date" operands 0
  let years ← integerOperand "time.add_date" operands 1
  let months ← integerOperand "time.add_date" operands 2
  let days ← integerOperand "time.add_date" operands 3
  instantAnswer "time.add_date" (addDate? ns years months days)

end PolicyHost.Builtin
