import PolicyHost.Builtin.Operand
import PolicyHost.Pattern.Parse
import PolicyHost.Pattern.Search

/-!
# Builtins on regular expressions

Both operands are read before the pattern is looked at.
-/

namespace PolicyHost.Builtin

open Json

/-- The pattern and the text it is applied to. -/
def patternOperands (name : String) (operands : List Value) :
    Except Failure (Pattern.Node × List Char) := do
  let pattern ← textOperand name operands 0
  let s ← textOperand name operands 1
  match Pattern.parse? pattern with
  | some node => return (node, s)
  | none => throw (.refused name .badPattern)

def patternMatch (operands : List Value) : Answer := do
  let (node, s) ← patternOperands "re_match" operands
  return some (.bool (node.isMatch s))

def patternSplit (operands : List Value) : Answer := do
  let (node, s) ← patternOperands "regex.split" operands
  return some (.array ((node.split s).map text))

end PolicyHost.Builtin
