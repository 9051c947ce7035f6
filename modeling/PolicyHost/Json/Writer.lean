import PolicyHost.Json.Value
import PolicyHost.Number.Hexadecimal

/-!
# Writing JSON texts

Two forms of a text: the compact one, without white space, in which values
cross a guest's memory, and the indented one that people read. Both write a
string the same way: quotation marks, backslashes and the characters below
the space are escaped, and every other character stands for itself.

The length of a compact text can be had without writing it. A string that a
caller passes may be far too long to be written out.
-/

namespace PolicyHost.Json

/-- A character as it stands inside a string. -/
def escape (c : Char) : List Char :=
  if c = '"' then ['\\', '"']
  else if c = '\\' then ['\\', '\\']
  else if c = '\n' then ['\\', 'n']
  else if c = '\r' then ['\\', 'r']
  else if c = '\t' then ['\\', 't']
  else if c = '\x08' then ['\\', 'b']
  else if c = '\x0c' then ['\\', 'f']
  else if c.toNat < 32 then
    ['\\', 'u', '0', '0', Hexadecimal.digit (c.toNat / 16), Hexadecimal.digit (c.toNat % 16)]
  else [c]

def quote (s : String) : List Char :=
  '"' :: (s.toList.flatMap escape ++ ['"'])

/-- How many bytes of a text a byte of a string takes. The bytes of characters that stand for
themselves take one. -/
def escapedSize (b : UInt8) : Nat :=
  if b = 34 ∨ b = 92 ∨ 8 ≤ b ∧ b ≤ 13 ∧ b ≠ 11 then 2
  else if b < 32 then 6
  else 1

def quotedSize (s : String) : Nat :=
  s.toUTF8.foldl (fun size b => size + escapedSize b) 2

namespace Value

mutual

/-- The compact text of a value. -/
def render : Value → List Char
  | .null => ['n', 'u', 'l', 'l']
  | .bool true => ['t', 'r', 'u', 'e']
  | .bool false => ['f', 'a', 'l', 's', 'e']
  | .number n => n.render
  | .string s => quote s
  | .array [] => ['[', ']']
  | .array (v :: rest) => '[' :: (v.render ++ renderItems rest)
  | .object [] => ['\x7b', '\x7d']
  | .object ((k, v) :: rest) => '\x7b' :: (quote k ++ ':' :: (v.render ++ renderMembers rest))

/-- The items after the first, and the bracket that ends them. -/
def renderItems : List Value → List Char
  | [] => [']']
  | v :: rest => ',' :: (v.render ++ renderItems rest)

def renderMembers : List (String × Value) → List Char
  | [] => ['\x7d']
  | (k, v) :: rest => ',' :: (quote k ++ ':' :: (v.render ++ renderMembers rest))

end

def toText (v : Value) : String :=
  String.ofList v.render

mutual

/-- The length of the compact text of a value in bytes. -/
def textSize : Value → Nat
  | .null => 4
  | .bool true => 4
  | .bool false => 5
  | .number n => (String.ofList n.render).utf8ByteSize
  | .string s => quotedSize s
  | .array [] => 2
  | .array (v :: rest) => 1 + (v.textSize + itemsSize rest)
  | .object [] => 2
  | .object ((k, v) :: rest) => 1 + (quotedSize k + (1 + (v.textSize + membersSize rest)))

def itemsSize : List Value → Nat
  | [] => 1
  | v :: rest => 1 + (v.textSize + itemsSize rest)

def membersSize : List (String × Value) → Nat
  | [] => 1
  | (k, v) :: rest => 1 + (quotedSize k + (1 + (v.textSize + membersSize rest)))

end

/-- The line break before something indented by `level` steps of two spaces. -/
def newLine (level : Nat) : List Char :=
  '\n' :: List.replicate (2 * level) ' '

mutual

/-- The text of a value with every item and member on a line of its own. -/
def renderIndented (level : Nat) : Value → List Char
  | .array (v :: rest) =>
      '[' :: (newLine (level + 1) ++ v.renderIndented (level + 1) ++ indentItems level rest)
  | .object ((k, v) :: rest) =>
      '\x7b' :: (newLine (level + 1) ++ quote k ++ ':' :: ' ' :: v.renderIndented (level + 1) ++
        indentMembers level rest)
  | v => v.render

def indentItems (level : Nat) : List Value → List Char
  | [] => newLine level ++ [']']
  | v :: rest =>
      ',' :: (newLine (level + 1) ++ v.renderIndented (level + 1) ++ indentItems level rest)

def indentMembers (level : Nat) : List (String × Value) → List Char
  | [] => newLine level ++ ['\x7d']
  | (k, v) :: rest =>
      ',' :: (newLine (level + 1) ++ quote k ++ ':' :: ' ' :: v.renderIndented (level + 1) ++
        indentMembers level rest)

end

def toIndentedText (v : Value) : String :=
  String.ofList (v.renderIndented 0)

end Value

end PolicyHost.Json
