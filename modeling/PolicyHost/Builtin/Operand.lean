import PolicyHost.Builtin.Failure

/-!
# Reading operands

Builtins take their operands one after the other, each as the type that it
has to have. The first operand that is missing or of another type decides
the failure.
-/

namespace PolicyHost.Builtin

open Json

variable (name : String) (operands : List Value) (position : Nat)

def operand : Except Failure Value :=
  match operands[position]? with
  | some v => .ok v
  | none => .error (.type name "present" position)

def textOperand : Except Failure (List Char) := do
  match ← operand name operands position with
  | .string s => .ok s.toList
  | _ => .error (.type name "string" position)

def arrayOperand : Except Failure (List Value) := do
  match ← operand name operands position with
  | .array items => .ok items
  | _ => .error (.type name "array" position)

/-- A floating point number as a signed 64-bit integer, if it is one. -/
def int64OfBinary64? (x : Binary64) : Option Int :=
  x.toInt?.bind Calendar.int64?

/-- An operand that is a signed 64-bit integer, written in either form. An
integer past that range counts as the floating point number nearest to it. -/
def integerOperand : Except Failure Int := do
  match ← operand name operands position with
  | .number n =>
      match n.int64? with
      | some i => .ok i
      | none =>
          match int64OfBinary64? n.toBinary64 with
          | some i => .ok i
          | none => .error (.type name "integer" position)
  | _ => .error (.type name "number" position)

/-- A floating point result as a value; a result that is not finite is none. -/
def numberAnswer (x : Option Binary64) : Option Value :=
  x.map fun x => .number (.ofBinary64 x)

def text (cs : List Char) : Value :=
  .string (String.ofList cs)

end PolicyHost.Builtin
