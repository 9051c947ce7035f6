import PolicyHost.Pattern.Node
import PolicyHost.Pattern.Written
import PolicyHost.Unicode.CaseFold
import PolicyHost.Unicode.Lookup

/-!
# What written patterns mean

The flags in force decide what a written part matches. A change of flags holds
up to the end of the group it stands in, also in the branches after it, so the
flags are handed from part to part.

A text never matches in the middle of a character. Without the Unicode flag a
class holds bytes, so it must keep to ASCII, and a byte that is written as an
escape as well.
-/

namespace PolicyHost.Pattern

open Unicode (CharSet)

structure Flags where
  ignoreCase : Bool := false
  multiLine : Bool := false
  dotAll : Bool := false
  carriageReturn : Bool := false
  swapGreed : Bool := false
  unicode : Bool := true

/-- The letters of ASCII in either case. -/
def closeAsciiCase (s : CharSet) : CharSet :=
  let added := (List.range 26).flatMap fun i =>
    (if s.mem (65 + i) then [(97 + i, 97 + i)] else []) ++
      (if s.mem (97 + i) then [(65 + i, 65 + i)] else [])
  .ofRanges (s.ranges ++ added)

namespace Flags

def set (f : Flags) : Flag × Bool → Flags
  | (.ignoreCase, on) => { f with ignoreCase := on }
  | (.multiLine, on) => { f with multiLine := on }
  | (.dotAll, on) => { f with dotAll := on }
  | (.carriageReturn, on) => { f with carriageReturn := on }
  | (.swapGreed, on) => { f with swapGreed := on }
  | (.unicode, on) => { f with unicode := on }
  | (.freeSpacing, _) => f

def change (f : Flags) (changes : FlagChanges) : Flags :=
  changes.foldl set f

/-- The kind of word character that boundaries go by. -/
def wordKind (f : Flags) : WordKind :=
  if f.unicode then .unicode else .ascii

/-- A set with both cases of its letters, where case is ignored. -/
def fold (f : Flags) (s : CharSet) : CharSet :=
  if !f.ignoreCase then s
  else if f.unicode then s.closeCase else closeAsciiCase s

/-- A set, or its complement. Among bytes a complement reaches past ASCII and
is refused. -/
def negate? (f : Flags) (negated : Bool) (s : CharSet) : Option CharSet :=
  if !negated then some s
  else if f.unicode then some s.complement
  else none

/-- The characters of a class that is written, with both cases where case is
ignored, or what is left when they are taken away. -/
def close? (f : Flags) (negated : Bool) (s : CharSet) : Option CharSet :=
  f.negate? negated (f.fold s)

end Flags

def AsciiClass.set : AsciiClass → CharSet
  | .alnum => .ofRanges [(48, 57), (65, 90), (97, 122)]
  | .alpha => .ofRanges [(65, 90), (97, 122)]
  | .ascii => .range 0 127
  | .blank => .ofRanges [(9, 9), (32, 32)]
  | .cntrl => .ofRanges [(0, 31), (127, 127)]
  | .digit => .range 48 57
  | .graph => .range 33 126
  | .lower => .range 97 122
  | .print => .range 32 126
  | .punct => .ofRanges [(33, 47), (58, 64), (91, 96), (123, 126)]
  | .space => .ofRanges [(9, 13), (32, 32)]
  | .upper => .range 65 90
  | .word => .ofRanges [(48, 57), (65, 90), (95, 95), (97, 122)]
  | .xdigit => .ofRanges [(48, 57), (65, 70), (97, 102)]

def LetterClass.set (kind : LetterClass) (f : Flags) : CharSet :=
  match kind, f.unicode with
  | .digit, true => Unicode.digitSet
  | .space, true => Unicode.spaceSet
  | .word, true => Unicode.wordSet
  | .digit, false => AsciiClass.digit.set
  | .space, false => AsciiClass.space.set
  | .word, false => AsciiClass.word.set

def Query.set? : Query → Option CharSet
  | .name letters => Unicode.named? letters
  | .value p v => Unicode.valued? p v

/-- The characters of a class that an escape stands for. Letter classes hold
both cases of their letters already; properties are known for characters only,
not for bytes. -/
def Escape.set? (e : Escape) (f : Flags) : Option CharSet :=
  match e with
  | .letter kind negated => f.negate? negated (kind.set f)
  | .property query negated => if f.unicode then query.set?.bind (f.close? negated) else none

/-- The code point of a character in brackets, which among bytes is one of
ASCII. -/
def Literal.member? (l : Literal) (f : Flags) : Option Nat :=
  if f.unicode || l.char.toNat < 128 then some l.char.toNat else none

def SetOperation.apply : SetOperation → (a b : CharSet) → CharSet
  | .intersection, a, b => a.inter b
  | .difference, a, b => a.diff b
  | .symmetricDifference, a, b => a.symmDiff b

namespace Brackets

mutual

/-- The characters that brackets hold, before their own complement is taken.
Both sides of an operation have both cases of their letters where case is
ignored. -/
def set? : Brackets → Flags → Option CharSet
  | .literal l, f => (l.member? f).map fun n => .range n n
  | .range first last, f => do
      let low ← first.member? f
      let high ← last.member? f
      return .range low high
  | .ascii kind negated, f => f.close? negated kind.set
  | .escape e, f => e.set? f
  | .bracketed negated inside, f => do
      let s ← inside.set? f
      f.close? negated s
  | .union items, f => (rangesOf? items f []).map .ofRanges
  | .operation op left right, f => do
      let a ← left.set? f
      let b ← right.set? f
      return op.apply (f.fold a) (f.fold b)

/-- The ranges of several items, with those in `done`. -/
def rangesOf? : List Brackets → Flags → (done : List (Nat × Nat)) → Option (List (Nat × Nat))
  | [], _, done => some done
  | i :: rest, f, done =>
      match i.set? f with
      | none => none
      | some s => rangesOf? rest f (s.ranges ++ done)

end

end Brackets

/-- A literal: a text of one character, or a set where case makes a
difference. Among bytes, an escape of two digits past ASCII is no text, and
case is not known past ASCII. -/
def Literal.node? (l : Literal) (f : Flags) : Option Node :=
  let n := l.char.toNat
  if !f.unicode && 128 ≤ n && (l.asByte || f.ignoreCase) then none
  else some (.ofSet (f.fold (.single l.char)))

/-- The dot: any character but a line break, or any at all. -/
def dot? (f : Flags) : Option Node :=
  if !f.unicode then none
  else if f.dotAll then some (.set .all)
  else if f.carriageReturn then some (.set (CharSet.ofRanges [(10, 10), (13, 13)]).complement)
  else some (.set (CharSet.range 10 10).complement)

def Assertion.look (a : Assertion) (f : Flags) : Look :=
  match a with
  | .lineStart =>
      if !f.multiLine then .textStart else if f.carriageReturn then .anyLineStart else .lineStart
  | .lineEnd =>
      if !f.multiLine then .textEnd else if f.carriageReturn then .anyLineEnd else .lineEnd
  | .textStart => .textStart
  | .textEnd => .textEnd
  | .boundary => .boundary f.wordKind
  | .notBoundary => .notBoundary f.wordKind
  | .wordStart => .wordStart f.wordKind
  | .wordEnd => .wordEnd f.wordKind
  | .halfStart => .halfStart f.wordKind
  | .halfEnd => .halfEnd f.wordKind

namespace Written

mutual

/-- What a written pattern matches under some flags, and the flags after it. -/
def node? : Written → Flags → Option (Node × Flags)
  | .empty, f => some (.empty, f)
  | .flags changes, f => some (.empty, f.change changes)
  | .literal l, f => (l.node? f).map (·, f)
  | .dot, f => (dot? f).map (·, f)
  | .assertion a, f => some (.look (a.look f), f)
  | .escape e, f => (e.set? f).map fun s => (.ofSet s, f)
  | .bracketed negated inside, f =>
      ((inside.set? f).bind (f.close? negated)).map fun s => (.ofSet s, f)
  -- The flags after the body say which way the repetition goes.
  | .repetition body least most greedy, f =>
      (body.node? f).map fun (n, f') => (n.repeated least most (greedy != f'.swapGreed), f')
  -- Changes of flags inside of a group end with it.
  | .group remembered changes body, f =>
      (body.node? (f.change changes)).map fun (n, _) => (if remembered then .group n else n, f)
  | .choice branches, f => (nodes? branches f []).map fun (ns, f) => (.ofBranches ns, f)
  | .sequence parts, f => (nodes? parts f []).map fun (ns, f) => (.ofParts ns, f)

/-- What written patterns match one after the other, and the flags after them;
`done` holds the nodes before them, latest first. -/
def nodes? : List Written → Flags → (done : List Node) → Option (List Node × Flags)
  | [], f, done => some (done.reverse, f)
  | w :: rest, f, done =>
      match w.node? f with
      | none => none
      | some (n, f) => nodes? rest f (n :: done)

end

end Written

end PolicyHost.Pattern
