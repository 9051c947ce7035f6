import PolicyHost.Calendar.Rfc3339
import PolicyHost.Json.Writer

/-!
# Failures of builtins

A builtin call that gives no answer fails for one of three causes: an operand
of the wrong type or a missing one, operands that are well typed but refused,
or a wrong number of operands. What is refused is a `Refusal`. A fourth cause is
no failure that a policy could get to see: the host itself goes down in the
builtin. `Failure.message` words all of them.
-/

namespace PolicyHost.Builtin

open Json

/-- Why well-typed operands are refused. -/
inductive Refusal where
  | notText (element : Value)
  | notNumber (element : Value)
  /-- A slice starts before the text. -/
  | negativeOffset
  | badPattern
  | badTimestamp (fault : Calendar.TimestampFault)
  | farInstant
  /-- A cause that a builtin words itself. -/
  | other (text : String)

def Refusal.message : Refusal → String
  | .notText element => "array element " ++ element.toText ++ " is not a string"
  | .notNumber element => "element " ++ element.toText ++ " is not a number"
  | .negativeOffset => "negative offset"
  | .badPattern => "invalid regular expression"
  | .badTimestamp fault => fault.message
  | .farInstant => "timestamp out of range"
  | .other text => text

/-- Why a builtin call gives no answer. -/
inductive Failure where
  /-- The operand at a position, counted from zero, is not what is expected;
  a missing operand is expected to be present. -/
  | type (name expected : String) (position : Nat)
  | refused (name : String) (cause : Refusal)
  | arity (name : String) (expected actual : Nat)
  /-- The host goes down: a number was to have more decimals than the host can write. -/
  | crash (name : String)

def Failure.message : Failure → String
  | .type name expected position =>
      name ++ ": operand " ++ Decimal.text (position + 1) ++ " must be " ++ expected
  | .refused name cause => name ++ ": " ++ cause.message
  | .arity name expected actual =>
      name ++ ": expected " ++ Decimal.text expected ++ " operand(s), got " ++
        Decimal.text actual
  | .crash name => name ++ ": formatting argument out of range"

/-- What a builtin call gives: a value, no value, or a failure. -/
abbrev Answer := Except Failure (Option Value)

end PolicyHost.Builtin
