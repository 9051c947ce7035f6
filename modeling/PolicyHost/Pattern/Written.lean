/-!
# Patterns as they are written

A pattern as a tree that follows its text: characters, escapes, brackets,
repetitions, groups and changes of flags, none of them interpreted yet. What
a pattern matches also depends on the flags in force, and
`PolicyHost.Pattern.Meaning` takes them into account.

`Written.fits` bounds how deep a pattern is nested. It never goes deeper than
the bound, so it is safe on any tree, and what passes it can be walked.
-/

namespace PolicyHost.Pattern

/-- A flag that changes how what follows it is taken. -/
inductive Flag where
  | ignoreCase
  | multiLine
  | dotAll
  /-- A carriage return belongs to a line break. -/
  | carriageReturn
  | swapGreed
  /-- Classes and case reach past ASCII. -/
  | unicode
  /-- White space and comments in the pattern are passed over. -/
  | freeSpacing
deriving DecidableEq, Repr

/-- Changes of flags in order, each to on or off. -/
abbrev FlagChanges := List (Flag × Bool)

/-- A character, and whether it was written as two hexadecimal digits, which
can stand for a byte. -/
structure Literal where
  char : Char
  asByte : Bool := false
deriving DecidableEq, Repr

inductive LetterClass where
  | digit
  | space
  | word
deriving DecidableEq, Repr

inductive AsciiClass where
  | alnum
  | alpha
  | ascii
  | blank
  | cntrl
  | digit
  | graph
  | lower
  | print
  | punct
  | space
  | upper
  | word
  | xdigit
deriving DecidableEq, Repr

/-- A question about the properties of a character. -/
inductive Query where
  | name (letters : List Char)
  /-- Whether a property has a value. -/
  | value (property value : List Char)
deriving DecidableEq, Repr

inductive Escape where
  | letter (kind : LetterClass) (negated : Bool)
  | property (query : Query) (negated : Bool)
deriving DecidableEq, Repr

inductive Assertion where
  | lineStart
  | lineEnd
  | textStart
  | textEnd
  | boundary
  | notBoundary
  | wordStart
  | wordEnd
  | halfStart
  | halfEnd
deriving DecidableEq, Repr

inductive SetOperation where
  | intersection
  | difference
  | symmetricDifference
deriving DecidableEq, Repr

inductive Brackets where
  | literal (l : Literal)
  | range (first last : Literal)
  | ascii (kind : AsciiClass) (negated : Bool)
  | escape (e : Escape)
  | bracketed (negated : Bool) (inside : Brackets)
  | union (items : List Brackets)
  | operation (op : SetOperation) (left right : Brackets)
deriving Inhabited

/-- A pattern as it is written. -/
inductive Written where
  | empty
  /-- A change of flags up to the end of the group. -/
  | flags (changes : FlagChanges)
  | literal (l : Literal)
  | dot
  | assertion (a : Assertion)
  | escape (e : Escape)
  | bracketed (negated : Bool) (inside : Brackets)
  /-- Between `least` and `most` times. -/
  | repetition (body : Written) (least : Nat) (most : Option Nat) (greedy : Bool)
  /-- A part in parentheses, with flags of its own; what it matches is
  remembered or not. -/
  | group (remembered : Bool) (changes : FlagChanges) (body : Written)
  | choice (branches : List Written)
  | sequence (parts : List Written)
deriving Inhabited

namespace Brackets

/-- Items side by side; one item stands for itself. -/
def ofItems : List Brackets → Brackets
  | [i] => i
  | items => .union items

mutual

/-- Whether brackets, operations and unions of several items are nested at
most `limit` deep. -/
def fits : Brackets → (limit : Nat) → Bool
  | .bracketed _ inside, limit + 1 => inside.fits limit
  | .operation _ left right, limit + 1 => left.fits limit && right.fits limit
  | .union items, limit + 1 => allFit items limit
  | .bracketed _ _, 0 | .operation _ _ _, 0 => false
  | .union items, 0 => items.isEmpty
  | .literal _, _ | .range _ _, _ | .ascii _ _, _ | .escape _, _ => true

@[inherit_doc fits]
def allFit : List Brackets → (limit : Nat) → Bool
  | [], _ => true
  | i :: rest, limit => i.fits limit && allFit rest limit

end

end Brackets

namespace Written

def ofParts : List Written → Written
  | [] => .empty
  | [p] => p
  | parts => .sequence parts

def ofBranches : List Written → Written
  | [b] => b
  | branches => .choice branches

/-- Whether a repetition can follow: there is something to repeat. -/
def repeatable : Written → Bool
  | .empty | .flags _ => false
  | _ => true

mutual

/-- Whether brackets, repetitions, groups, choices and sequences are nested at
most `limit` deep. -/
def fits : Written → (limit : Nat) → Bool
  | .bracketed _ inside, limit + 1 => inside.fits limit
  | .repetition body _ _ _, limit + 1 => body.fits limit
  | .group _ _ body, limit + 1 => body.fits limit
  | .choice branches, limit + 1 => allFit branches limit
  | .sequence parts, limit + 1 => allFit parts limit
  | .bracketed _ _, 0 | .repetition _ _ _ _, 0 | .group _ _ _, 0 => false
  | .choice _, 0 | .sequence _, 0 => false
  | .empty, _ | .flags _, _ | .literal _, _ | .dot, _ | .assertion _, _ | .escape _, _ => true

@[inherit_doc fits]
def allFit : List Written → (limit : Nat) → Bool
  | [], _ => true
  | w :: rest, limit => w.fits limit && allFit rest limit

end

end Written

def nestingLimit : Nat := 250

end PolicyHost.Pattern
