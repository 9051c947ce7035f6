import PolicyHost.Pattern.Program
import PolicyHost.Unicode.Derived

/-!
# Searching with patterns

A compiled pattern is run over a text with all its alternatives side by
side. The alternatives that are alive at a place are kept in order of
preference, at most one for each instruction, so a search takes a number of
steps proportional to the text and to the pattern. The match found is the
leftmost one, and of those the preferred.
-/

namespace PolicyHost.Pattern

/-- An alternative: the instruction it is at and the place it began. -/
structure Thread where
  index : Nat
  began : Nat

/-- The characters on both sides of a place. -/
structure Place where
  before : Option Char
  after : Option Char

def isWord (kind : WordKind) : Option Char → Bool
  | none => false
  | some c =>
      if c.toNat < 128 then c.isAlphanum || c == '_'
      else kind == .unicode && Unicode.wordSet.mem c.toNat

def Look.holds (p : Place) : Look → Bool
  | .textStart => p.before.isNone
  | .textEnd => p.after.isNone
  | .lineStart => p.before.isNone || p.before == some '\n'
  | .lineEnd => p.after.isNone || p.after == some '\n'
  | .anyLineStart =>
      p.before.isNone || p.before == some '\n' ||
        (p.before == some '\r' && p.after != some '\n')
  | .anyLineEnd =>
      p.after.isNone || p.after == some '\r' ||
        (p.after == some '\n' && p.before != some '\r')
  | .boundary k => isWord k p.before != isWord k p.after
  | .notBoundary k => isWord k p.before == isWord k p.after
  | .wordStart k => !isWord k p.before && isWord k p.after
  | .wordEnd k => isWord k p.before && !isWord k p.after
  | .halfStart k => !isWord k p.before
  | .halfEnd k => !isWord k p.after

/-- The alternatives that wait for a character or have matched, reached from
`todo` without taking a character; `seen` marks the instructions that were
visited and `ready` holds the alternatives found, latest first. Every
instruction is visited once and adds at most two to what is to be done, so a
budget of twice the code and the list at hand is enough. -/
def settle (code : Array Instruction) (p : Place) : (budget : Nat) → (todo : List Thread) →
    (seen : Array Bool) → (ready : List Thread) → List Thread
  | 0, _, _, ready => ready.reverse
  | _ + 1, [], _, ready => ready.reverse
  | budget + 1, t :: todo, seen, ready =>
      if seen.getD t.index true then settle code p budget todo seen ready
      else
        let seen := seen.set! t.index true
        match code.getD t.index .accept with
        | .take _ _ | .accept => settle code p budget todo seen (t :: ready)
        | .check l next =>
            settle code p budget (if l.holds p then { t with index := next } :: todo else todo)
              seen ready
        | .fork a b =>
            settle code p budget ({ t with index := a } :: { t with index := b } :: todo) seen ready

/-- Steps the alternatives over a character, or over the end of the text:
those that go on, and the first that has matched, which ends all that are
less preferred. -/
def step (code : Array Instruction) (c : Option Char) : List Thread → (going : List Thread) →
    List Thread × Option Thread
  | [], going => (going.reverse, none)
  | t :: rest, going =>
      match code.getD t.index .accept with
      | .accept => (going.reverse, some t)
      | .take s next =>
          match c with
          | some c =>
              if s.mem c.toNat then step code (some c) rest ({ t with index := next } :: going)
              else step code (some c) rest going
          | none => step code none rest going
      | _ => step code c rest going

/-- Runs the alternatives over the rest of a text from the place `at`. A new
alternative begins at every place until one has matched; `found` is the best
match so far. -/
def run (program : Program) (before : Option Char) (place : Nat) :
    (cs : List Char) → (threads : List Thread) → (found : Option (Nat × Nat)) → Option (Nat × Nat)
  | cs, threads, found =>
      -- Nothing begins any more once something has matched.
      let todo := if found.isNone then threads ++ [⟨program.start, place⟩] else threads
      if todo.isEmpty then found
      else
        let budget := 2 * program.code.size + todo.length + 1
        let ready := settle program.code ⟨before, cs.head?⟩ budget todo
          (Array.replicate program.code.size false) []
        let (going, matched) := step program.code cs.head? ready []
        let found := match matched with
          | some t => some (t.began, place)
          | none => found
        match cs with
        | [] => found
        | c :: cs => run program (some c) (place + 1) cs going found

/-- The start and end of the first match in `cs`, which begins at `place` of
a text with `before` in front of it. -/
def find? (program : Program) (before : Option Char) (place : Nat) (cs : List Char) :
    Option (Nat × Nat) :=
  run program before place cs [] none

def Node.isMatch (n : Node) (text : List Char) : Bool :=
  (find? (.ofNode n) none 0 text).isSome

/-- The next match at `place` or later. A match of nothing where the last
match ended does not count, and the search goes on one character later. -/
def next? (program : Program) (before : Option Char) (place : Nat) (cs : List Char)
    (lastEnd : Option Nat) : Option (Nat × Nat) :=
  match find? program before place cs with
  | none => none
  | some (s, e) =>
      if s = e ∧ lastEnd = some e then
        match cs.drop (s - place) with
        | [] => none
        | c :: rest => find? program (some c) (s + 1) rest
      else some (s, e)

/-- The matches in a text from `place` on, from left to right; `done` holds
those found, latest first. Each lies after the one before it, so there is at
most one for every place. -/
def matches.go (program : Program) : (budget : Nat) → (before : Option Char) → (place : Nat) →
    (cs : List Char) → (lastEnd : Option Nat) → (done : List (Nat × Nat)) → List (Nat × Nat)
  | 0, _, _, _, _, done => done.reverse
  | budget + 1, before, place, cs, lastEnd, done =>
      match next? program before place cs lastEnd with
      | none => done.reverse
      | some (s, e) =>
          let before := if e = place then before else cs[e - place - 1]?
          matches.go program budget before e (cs.drop (e - place)) (some e) ((s, e) :: done)

def Node.matches (n : Node) (text : List Char) : List (Nat × Nat) :=
  Pattern.matches.go (.ofNode n) (text.length + 2) none 0 text none []

/-- The parts of a text between spans that follow one another. -/
def between (place : Nat) : (text : List Char) → List (Nat × Nat) → List (List Char)
  | text, [] => [text]
  | text, (s, e) :: spans => text.take (s - place) :: between e (text.drop (e - place)) spans

def Node.split (n : Node) (text : List Char) : List (List Char) :=
  between 0 text (n.matches text)

end PolicyHost.Pattern
