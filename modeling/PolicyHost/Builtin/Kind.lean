import PolicyHost.Builtin.Operand

/-!
# Builtins on the types of values

Each predicate asks for one type. There are no sets among JSON values.
-/

namespace PolicyHost.Builtin

open Json

/-- Whether the operand satisfies a predicate. -/
def check (name : String) (holds : Value → Bool) (operands : List Value) : Answer := do
  return some (.bool (holds (← operand name operands 0)))

/-- Whether the operand has the type of a name. -/
def isOf (name type : String) : List Value → Answer :=
  check name (·.typeName == type)

/-- Whether the operand is a set; no value is. -/
def isSet : List Value → Answer :=
  check "is_set" fun _ => false

def typeName (operands : List Value) : Answer := do
  return some (.string (← operand "type_name" operands 0).typeName)

end PolicyHost.Builtin
