import PolicyHost.Builtin.Operand
import PolicyHost.Text.Blank

/-!
# Conversion to numbers

A text is read as a signed 64-bit integer if it is one, and otherwise as a
floating point number, which becomes an integer again where it is one in
that range.
-/

namespace PolicyHost.Builtin

open Json

def numberOfText? (cs : List Char) : Option Value :=
  match (Decimal.integer? cs).bind Calendar.int64? with
  | some n => some (.ofInt n)
  | none => (Decimal.real? cs).bind numberAnswer

/-- The number that a value stands for. -/
def toNumber (operands : List Value) : Answer := do
  match ← operand "to_number" operands 0 with
  | .null => return some (.ofInt 0)
  | .bool b => return some (.ofInt (if b then 1 else 0))
  | .number n => return some (.number n)
  | .string s => return numberOfText? (Text.trim s.toList)
  | _ => throw (.type "to_number" "null, boolean, number, or string" 0)

end PolicyHost.Builtin
