import PolicyHost.Config

/-!
# Configuration files

A configuration file has one setting on a line: its name, an equals sign, and
an integer or a truth value. Names may be quoted, integers may be written in
four bases and with underscores between their digits, and a hash sign begins a
comment. This is the part of the TOML format in which a configuration can be
written; everything else of the format either is no text of it or gives a
setting a value of another type.
-/

namespace PolicyHost.CommandLine

open Json

/-- White space inside a line. -/
def isInlineBlank (c : Char) : Bool :=
  c == ' ' || c == '\t'

def skipInline (cs : List Char) : List Char :=
  cs.dropWhile isInlineBlank

/-- A character of a name without quotes. -/
def isNameChar (c : Char) : Bool :=
  c.isAlphanum || c == '_' || c == '-'

/-- A character that stands for itself in quotes and comments. -/
def isVisible (c : Char) : Bool :=
  c == '\t' || (0x20 ≤ c.toNat && c.toNat != 0x7f)

def codePoint? (ds : List Char) : Option Char := do
  let n ← Hexadecimal.number? ds
  if n.isValidChar then some (Char.ofNat n) else none

/-- The rest of a name in double quotes; of the escapes only those by number
can be part of the name of a setting. -/
def quotedRest? : List Char → (done : List Char) → Option (String × List Char)
  | '"' :: cs, done => some (String.ofList done.reverse, cs)
  | '\\' :: 'u' :: a :: b :: c :: d :: cs, done => do
      quotedRest? cs ((← codePoint? [a, b, c, d]) :: done)
  | '\\' :: 'U' :: a :: b :: c :: d :: e :: f :: g :: h :: cs, done => do
      quotedRest? cs ((← codePoint? [a, b, c, d, e, f, g, h]) :: done)
  | '\\' :: _, _ => none
  | c :: cs, done => if isVisible c then quotedRest? cs (c :: done) else none
  | [], _ => none

def name? (cs : List Char) : Option (String × List Char) :=
  match cs with
  | '"' :: cs => quotedRest? cs []
  | '\'' :: cs =>
      match cs.dropWhile (· ≠ '\'') with
      | _ :: rest => some (String.ofList (cs.takeWhile (· ≠ '\'')), rest)
      | [] => none
  | cs =>
      if (cs.takeWhile isNameChar).isEmpty then none
      else some (String.ofList (cs.takeWhile isNameChar), cs.dropWhile isNameChar)

/-- The digits of a number, of which a single underscore may stand between
two. -/
def plainDigits? : List Char → Option (List Char)
  | [] => none
  | [c] => if c = '_' then none else some [c]
  | c :: '_' :: d :: cs => if c = '_' then none else (plainDigits? (d :: cs)).map (c :: ·)
  | c :: cs => if c = '_' then none else (plainDigits? cs).map (c :: ·)

def ofBase? (base : Nat) (cs : List Char) : Option Nat := do
  (← plainDigits? cs).foldlM (fun n c => do
    let d ← Hexadecimal.value? c
    if d < base then some (base * n + d) else none) 0

/-- A decimal number without a zero in front. -/
def decimal? (cs : List Char) : Option Nat :=
  match cs with
  | ['0'] => some 0
  | '0' :: _ => none
  | cs => ofBase? 10 cs

def integer? (cs : List Char) : Option Int :=
  match cs with
  | '0' :: 'x' :: cs => (ofBase? 16 cs).map Int.ofNat
  | '0' :: 'o' :: cs => (ofBase? 8 cs).map Int.ofNat
  | '0' :: 'b' :: cs => (ofBase? 2 cs).map Int.ofNat
  | '-' :: cs => (decimal? cs).map fun n => -(n : Int)
  | '+' :: cs => (decimal? cs).map Int.ofNat
  | cs => (decimal? cs).map Int.ofNat

def value? (cs : List Char) : Option Value :=
  if cs = "true".toList then some (.bool true)
  else if cs = "false".toList then some (.bool false)
  else (integer? cs).bind fun n => (Number.ofInt? n).map .number

/-- Whether nothing but a comment is left of a line. -/
def isLineEnd (cs : List Char) : Bool :=
  match skipInline cs with
  | [] => true
  | '#' :: comment => comment.all isVisible
  | _ => false

/-- A character that may be part of a value. -/
def isValueChar (c : Char) : Bool :=
  c.isAlphanum || c == '_' || c == '-' || c == '+'

/-- The setting on a line; `none` inside when the line is empty. -/
def setting? (line : List Char) : Option (Option (String × Value)) := do
  if isLineEnd line then return none
  let (name, rest) ← name? (skipInline line)
  match skipInline rest with
  | '=' :: rest =>
      let rest := skipInline rest
      let v ← value? (rest.takeWhile isValueChar)
      if isLineEnd (rest.dropWhile isValueChar) then return some (name, v) else none
  | _ => none

/-- The lines of a text, without the marks that end them. -/
def lines (done : List Char) : List Char → List (List Char)
  | [] => [done.reverse]
  | '\r' :: '\n' :: cs => done.reverse :: lines [] cs
  | '\n' :: cs => done.reverse :: lines [] cs
  | c :: cs => lines (c :: done) cs

def withoutMark : List Char → List Char
  | '\uFEFF' :: cs => cs
  | cs => cs

def configOfText? (text : String) : Option Config := do
  let settings ← (lines [] (withoutMark text.toList)).mapM setting?
  Config.ofMembers? (settings.filterMap id)

end PolicyHost.CommandLine
