import PolicyHost.Builtin.Operand
import PolicyHost.Text.Blank
import PolicyHost.Text.Search
import PolicyHost.Unicode.Case

/-!
# Builtins on texts

Joining, searching, cutting and changing texts. Places and lengths count
characters.
-/

namespace PolicyHost.Builtin

open Json

/-- The characters of an element that has to be a string. -/
def textElement (name : String) : Value → Except Failure (List Char)
  | .string s => .ok s.toList
  | element => .error (.refused name (.notText element))

/-- The strings of the array, with the delimiter between them. -/
def concat (operands : List Value) : Answer := do
  let delimiter ← textOperand "concat" operands 0
  let parts ← (← arrayOperand "concat" operands 1).mapM (textElement "concat")
  return some (text (delimiter.intercalate parts))

def contains (operands : List Value) : Answer := do
  let s ← textOperand "contains" operands 0
  let part ← textOperand "contains" operands 1
  return some (.bool (Text.contains part s))

def endsWith (operands : List Value) : Answer := do
  let s ← textOperand "endswith" operands 0
  let part ← textOperand "endswith" operands 1
  return some (.bool (Text.endsWith part s))

def startsWith (operands : List Value) : Answer := do
  let s ← textOperand "startswith" operands 0
  let part ← textOperand "startswith" operands 1
  return some (.bool (Text.startsWith part s))

/-- The place of the first occurrence, or `-1`. -/
def indexOf (operands : List Value) : Answer := do
  let s ← textOperand "indexof" operands 0
  let part ← textOperand "indexof" operands 1
  return some (.ofInt (((Text.indexOf? part s).map Int.ofNat).getD (-1)))

def lower (operands : List Value) : Answer := do
  let s ← textOperand "lower" operands 0
  return some (text (Unicode.toLower s))

def upper (operands : List Value) : Answer := do
  let s ← textOperand "upper" operands 0
  return some (text (Unicode.toUpper s))

/-- The first text with every occurrence of the second exchanged for the third. -/
def replace (operands : List Value) : Answer := do
  let s ← textOperand "replace" operands 0
  let old ← textOperand "replace" operands 1
  let new ← textOperand "replace" operands 2
  return some (text (Text.replace old new s))

def split (operands : List Value) : Answer := do
  let s ← textOperand "split" operands 0
  let delimiter ← textOperand "split" operands 1
  return some (.array ((Text.split delimiter s).map text))

/-- The characters from a place on, as many as a length says and all of them
for a negative one. -/
def slice (s : List Char) (start : Nat) (length : Int) : List Char :=
  if length < 0 then s.drop start else (s.drop start).take length.toNat

/-- A slice of a text; it may not start before the text. -/
def substring (operands : List Value) : Answer := do
  let s ← textOperand "substring" operands 0
  let start ← integerOperand "substring" operands 1
  let length ← integerOperand "substring" operands 2
  if start < 0 then throw (.refused "substring" .negativeOffset)
  return some (text (slice s start.toNat length))

def trimSpace (operands : List Value) : Answer := do
  let s ← textOperand "trim_space" operands 0
  return some (text (Text.trim s))

end PolicyHost.Builtin
