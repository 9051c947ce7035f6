import PolicyHost.Unicode.CharSet

/-!
# Patterns

A pattern as a tree of what it matches: a text, one character of a set, or a
condition on a place between two characters, and these in sequences, choices
and repetitions. Choices are ordered, the earlier preferred; a greedy
repetition prefers to go on and a lazy one to stop.

Trees are put together by `Node.ofSet`, `Node.repeated`, `Node.ofParts` and
`Node.ofBranches`, which keep them in a short form that matches the same: texts
side by side are one text, a choice between single characters is a set, and what
all branches of a choice begin with stands in front of it.
-/

namespace PolicyHost.Pattern

open Unicode (CharSet)

/-- What counts as a word character. -/
inductive WordKind where
  | ascii
  | unicode
deriving DecidableEq

/-- A condition on a place in a text. -/
inductive Look where
  | textStart
  | textEnd
  /-- After the start of the text or a line feed. -/
  | lineStart
  /-- Before the end of the text or a line feed. -/
  | lineEnd
  /-- After the start of the text or a line break of either style. -/
  | anyLineStart
  /-- Before the end of the text or a line break of either style. -/
  | anyLineEnd
  /-- Between a word character and another one, or none. -/
  | boundary (kind : WordKind)
  /-- Where there is no boundary. -/
  | notBoundary (kind : WordKind)
  | wordStart (kind : WordKind)
  | wordEnd (kind : WordKind)
  /-- Not after a word character. -/
  | halfStart (kind : WordKind)
  /-- Not before a word character. -/
  | halfEnd (kind : WordKind)
deriving DecidableEq

inductive Node where
  | empty
  /-- The characters of a text, of which there is at least one. -/
  | text (chars : List Char)
  | set (chars : CharSet)
  | look (condition : Look)
  /-- Between `least` and `most` times. -/
  | repetition (body : Node) (least : Nat) (most : Option Nat) (greedy : Bool)
  /-- A part whose match is remembered. -/
  | group (body : Node)
  | sequence (parts : List Node)
  /-- One of several, the earlier preferred. -/
  | choice (branches : List Node)
deriving Inhabited

namespace Node

def addLengths : (a b : Option Nat) → Option Nat
  | some a, some b => some (a + b)
  | _, _ => none

mutual

/-- The length of the shortest text that a pattern can match; none where a part
matches nothing at all. -/
def shortest? : Node → Option Nat
  | .empty | .look _ => some 0
  | .text chars => some chars.length
  | .set s => if s.ranges = [] then none else some 1
  | .repetition body least _ _ => body.shortest?.map (· * least)
  | .group body => body.shortest?
  | .sequence parts => shortestOfParts? parts
  | .choice branches => shortestOfBranches? branches

def shortestOfParts? : List Node → Option Nat
  | [] => some 0
  | n :: rest => addLengths n.shortest? (shortestOfParts? rest)

def shortestOfBranches? : List Node → Option Nat
  | [] => none
  | [n] => n.shortest?
  -- If any branch matches nothing at all, no length is known of the whole.
  | n :: m :: rest => do
      let a ← n.shortest?
      let b ← shortestOfBranches? (m :: rest)
      return min a b

end

/-- Whether a pattern is not known to take a character. -/
def nullable (n : Node) : Bool :=
  (n.shortest?.getD 0) == 0

mutual

/-- Whether a pattern matches only the text of no characters. -/
def takesNothing : Node → Bool
  | .empty | .look _ => true
  | .text _ | .set _ => false
  | .repetition body _ most _ => most.isSome && body.takesNothing
  | .group body => body.takesNothing
  | .sequence parts | .choice parts => allTakeNothing parts

@[inherit_doc takesNothing]
def allTakeNothing : List Node → Bool
  | [] => true
  | n :: rest => n.takesNothing && allTakeNothing rest

end

mutual

/-- Whether two patterns are the same tree. Groups remember different matches,
so no two of them are the same. -/
def same : Node → Node → Bool
  | .empty, .empty => true
  | .text a, .text b => a == b
  | .set a, .set b => a == b
  | .look a, .look b => a == b
  | .repetition a least most greedy, .repetition b least' most' greedy' =>
      least == least' && most == most' && greedy == greedy' && a.same b
  | .sequence as, .sequence bs | .choice as, .choice bs => allSame as bs
  | _, _ => false

def allSame : List Node → List Node → Bool
  | [], [] => true
  | a :: as, b :: bs => a.same b && allSame as bs
  | _, _ => false

end

mutual

def count : Node → Nat
  | .empty | .text _ | .set _ | .look _ => 1
  | .repetition body _ _ _ | .group body => body.count + 1
  | .sequence parts | .choice parts => countAll parts + 1

def countAll : List Node → Nat
  | [] => 0
  | n :: rest => n.count + countAll rest

end

/-- The pattern that matches nothing, not even the text of no characters. -/
def fail : Node := .set .empty

/-- One character of a set; a set of one character is a text. -/
def ofSet (s : CharSet) : Node :=
  match s.ranges with
  | [(low, high)] => if low = high then .text [Char.ofNat low] else .set s
  | _ => .set s

/-- A body between `least` and `most` times. What takes no character is matched
once at most; a body that is matched exactly once is left as it is. -/
def repeated (body : Node) (least : Nat) (most : Option Nat) (greedy : Bool) : Node :=
  let (least, most) :=
    if body.takesNothing then (min least 1, some (min (most.getD 1) 1)) else (least, most)
  match least, most with
  | 0, some 0 => .empty
  | 1, some 1 => body
  | least, most => .repetition body least most greedy

/-- Joins parts that follow one another: texts side by side become one.
`pending` holds the characters of the text before them, latest first, and
`done` the parts before that. -/
def join : (parts : List Node) → (pending : List Char) → (done : List Node) → List Node
  | [], pending, done => (if pending = [] then done else .text pending.reverse :: done).reverse
  | .empty :: rest, pending, done => join rest pending done
  | .text chars :: rest, pending, done => join rest (chars.reverse ++ pending) done
  | n :: rest, pending, done =>
      join rest [] (n :: (if pending = [] then done else .text pending.reverse :: done))

def parts : Node → List Node
  | .sequence parts => parts
  | n => [n]

def branches : Node → List Node
  | .choice branches => branches
  | n => [n]

def ofParts (ps : List Node) : Node :=
  match join (ps.flatMap parts) [] [] with
  | [] => .empty
  | [n] => n
  | ns => .sequence ns

/-- The set of a branch that is a single character. -/
def char? : Node → Option CharSet
  | .text [c] => some (.single c)
  | _ => none

def set? : Node → Option CharSet
  | .set s => some s
  | _ => none

/-- The union of the sets that a function finds in all of several branches. -/
def unionOf? (f : Node → Option CharSet) (ns : List Node) : Option CharSet :=
  (ns.mapM f).map fun sets => .ofRanges (sets.flatMap CharSet.ranges)

def sharedFront : List Node → List Node → List Node
  | a :: as, b :: bs => if a.same b then a :: sharedFront as bs else []
  | _, _ => []

/-- The parts that all of several sequences begin with; none where a branch is
no sequence. -/
def frontOf : List Node → List Node
  | [] => []
  | .sequence ps :: rest =>
      rest.foldl (fun front n =>
        match n with
        | .sequence qs => sharedFront front qs
        | _ => []) ps
  | _ => []

/-- One of several branches, with a budget for the fronts that are taken out:
each of them makes the branches smaller. -/
def choose : (budget : Nat) → List Node → Node
  | 0, ns => .choice ns
  | budget + 1, ns =>
      match ns.flatMap branches with
      | [] => fail
      | [n] => n
      | ns =>
          match (unionOf? char? ns).or (unionOf? set? ns) with
          | some s => ofSet s
          | none =>
              match frontOf ns with
              | [] => .choice ns
              | front =>
                  let rests := ns.map fun n => ofParts (n.parts.drop front.length)
                  ofParts (front ++ [choose budget rests])

def ofBranches (ns : List Node) : Node :=
  choose (countAll ns + 1) ns

end Node

end PolicyHost.Pattern
