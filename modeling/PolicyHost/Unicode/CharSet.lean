/-!
# Sets of characters

A set of characters is a list of ranges of code points, both ends included,
in increasing order and with a gap between any two. Union, intersection and
complement keep that form. A range may run across the surrogates, which are
no characters and no ends of ranges. The tables of properties are written as
ranges in hexadecimal, which `CharSet.ofTable` reads.
-/

namespace PolicyHost.Unicode

/-- A set of characters: increasing ranges of code points, a gap between any
two. -/
structure CharSet where
  ranges : List (Nat × Nat)
deriving DecidableEq, Inhabited

namespace CharSet

def last : Nat := 0x10ffff

def empty : CharSet := ⟨[]⟩

def all : CharSet := ⟨[(0, last)]⟩

def range (low high : Nat) : CharSet :=
  if low ≤ high then ⟨[(low, high)]⟩ else empty

def single (c : Char) : CharSet := range c.toNat c.toNat

/-- Whether a code point lies in one of the ranges; a range that begins later
ends the search. -/
def memRanges (n : Nat) : List (Nat × Nat) → Bool
  | [] => false
  | (low, high) :: rest => low ≤ n && (n ≤ high || memRanges n rest)

def mem (s : CharSet) (n : Nat) : Bool :=
  memRanges n s.ranges

/-- Joins a range to ranges that begin no earlier and lie later in the list;
`done` holds those that are settled, latest first. -/
def merge : (low high : Nat) → List (Nat × Nat) → (done : List (Nat × Nat)) → List (Nat × Nat)
  | low, high, [], done => ((low, high) :: done).reverse
  | low, high, (l, h) :: rest, done =>
      -- Ranges that touch become one.
      if l ≤ high + 1 then merge low (max high h) rest done
      else merge l h rest ((low, high) :: done)

/-- The set of all code points that lie in one of the ranges. -/
def ofRanges (ranges : List (Nat × Nat)) : CharSet :=
  match ranges.mergeSort (fun a b => a.1 ≤ b.1) with
  | [] => empty
  | (low, high) :: rest => ⟨merge low high rest []⟩

def union (s t : CharSet) : CharSet :=
  ofRanges (s.ranges ++ t.ranges)

/-- The code point before the surrogates, which are no characters. -/
def beforeSurrogates : Nat := 0xd7ff

def afterSurrogates : Nat := 0xe000

/-- The code point of the next character. -/
def next (n : Nat) : Nat :=
  if n = beforeSurrogates then afterSurrogates else n + 1

def previous (n : Nat) : Nat :=
  if n = afterSurrogates then beforeSurrogates else n - 1

/-- The gaps between ranges that begin at `start` or later; `done` holds those
found, latest first. -/
def gaps : (start : Nat) → List (Nat × Nat) → (done : List (Nat × Nat)) → List (Nat × Nat)
  | start, [], done => (if start ≤ last then (start, last) :: done else done).reverse
  | start, (low, high) :: rest, done =>
      gaps (next high) rest (if start < low then (start, previous low) :: done else done)

/-- The characters that do not lie in the set. -/
def outside (s : CharSet) : CharSet :=
  ⟨gaps 0 s.ranges []⟩

/-- Whether a range ends right before the surrogates and another begins right
after them. -/
def meetsSurrogates (s : CharSet) : Bool :=
  s.ranges.any (fun (_, high) => high == beforeSurrogates) &&
    s.ranges.any (fun (low, _) => low == afterSurrogates)

/-- The complement of a set: what does not lie in it. Two ranges that meet at
the surrogates have a gap between them that holds no character of its own; the
complement takes it with the characters at both of its ends. -/
def complement (s : CharSet) : CharSet :=
  if s.meetsSurrogates then s.outside.union (.range beforeSurrogates afterSurrogates)
  else s.outside

/-- The common parts of two lists of ranges; `done` holds those found, latest
first. Each step drops a range, so a budget of the length of both lists is
enough. -/
def common : (budget : Nat) → (a b done : List (Nat × Nat)) → List (Nat × Nat)
  | budget + 1, (al, ah) :: as, (bl, bh) :: bs, done =>
      let low := max al bl
      let high := min ah bh
      let done := if low ≤ high then (low, high) :: done else done
      if ah < bh then common budget as ((bl, bh) :: bs) done
      else common budget ((al, ah) :: as) bs done
  | _, _, _, done => done.reverse

def inter (s t : CharSet) : CharSet :=
  ⟨common (s.ranges.length + t.ranges.length) s.ranges t.ranges []⟩

def diff (s t : CharSet) : CharSet :=
  s.inter t.outside

def symmDiff (s t : CharSet) : CharSet :=
  (s.diff t).union (t.diff s)

def isBelow (s : CharSet) (bound : Nat) : Bool :=
  s.ranges.all fun (_, high) => high < bound

def hexDigit (c : Char) : Nat :=
  if c ≤ '9' then c.toNat - '0'.toNat else c.toNat - 'A'.toNat + 10

def hexNumber (cs : List Char) : Nat :=
  cs.foldl (fun n c => 16 * n + hexDigit c) 0

/-- One entry of a table: a code point, or two joined by a dash. -/
def entry (cs : List Char) : Nat × Nat :=
  let low := hexNumber (cs.takeWhile (· != '-'))
  match cs.dropWhile (· != '-') with
  | _ :: high => (low, hexNumber high)
  | [] => (low, low)

/-- The words of a text, set apart by single spaces; `word` holds the
letters of the one being read and `done` the words before it, both latest
first. -/
def words : List Char → (word : List Char) → (done : List (List Char)) → List (List Char)
  | [], word, done => (if word = [] then done else word.reverse :: done).reverse
  | c :: cs, word, done =>
      if c = ' ' ∨ c = '\n' then words cs [] (if word = [] then done else word.reverse :: done)
      else words cs (c :: word) done

/-- The set that a table of ranges in hexadecimal lists. -/
def ofTable (text : String) : CharSet :=
  ofRanges ((words text.toList [] []).map entry)

end CharSet

end PolicyHost.Unicode
