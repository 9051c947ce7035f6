import PolicyHost.Pattern.Machine
import PolicyHost.Pattern.Node

/-!
# The size of patterns

A pattern is refused when a machine for it would be too large. The machine is
counted as it is laid out, with every repetition written out, once for reading
a text forward and once for reading it backward.

Most patterns are far below the limit, which shows without sharing anything in
the sets; only where it does not are the sets laid out state by state. The
count stops at the limit, so it takes no longer than a machine of that size.
-/

namespace PolicyHost.Pattern

namespace Node

/-- A way to count the machines of patterns: the direction in which text is
read, and how sets are laid out. -/
structure Counting where
  backward : Bool
  packing : Machine.Packing

/-- Lays out a part `times` more, each leading into the next one; `fork` says
whether the machine so far ends in a fork. -/
def countTimes (part : Machine → Machine × Bool) :
    (times : Nat) → Machine → (fork : Bool) → Machine × Bool
  | 0, m, fork => (m, fork)
  | times + 1, m, fork =>
      if m.isFull then (m, fork)
      else
        let (m, next) := part m
        countTimes part times (m.leave fork) next

def countExactly (part : Machine → Machine × Bool) (times : Nat) (m : Machine) :
    Machine × Bool :=
  match times with
  | 0 => (m.add 1, false)
  | times + 1 =>
      let (m, fork) := part m
      countTimes part times m fork

/-- Lays out a part up to `times` more, with a fork before each that leads to
the end as well. -/
def countOptional (part : Machine → Machine × Bool) :
    (times : Nat) → Machine → (fork : Bool) → Machine × Bool
  | 0, m, fork => (m.leave fork, false)
  | times + 1, m, fork =>
      if m.isFull then (m, fork)
      else
        let (m, next) := part (((m.leave fork).add 1).fork 2)
        countOptional part times m next

/-- Lays out a repetition without bound, of a part that may be nothing or
not. -/
def countLoop (part : Machine → Machine × Bool) (nullable : Bool) (least : Nat) (m : Machine) :
    Machine × Bool :=
  match least, nullable with
  | 0, false =>
      let (m, fork) := part (m.add 1)
      ((m.leave fork).fork 1, true)
  | 0, true =>
      let (m, fork) := part m
      (((m.leave fork).add 3).fork 4, false)
  | least, _ =>
      let (m, fork) := countExactly part least m
      (((m.leave fork).add 1).fork 1, true)

def countRepetition (part : Machine → Machine × Bool) (nullable : Bool) (least : Nat)
    (most : Option Nat) (m : Machine) : Machine × Bool :=
  match most with
  | none => countLoop part nullable least m
  | some 1 =>
      if least = 0 then
        let (m, fork) := part (m.add 1)
        (((m.leave fork).add 1).fork 2, false)
      else countExactly part least m
  | some most =>
      let (m, fork) := countExactly part least m
      if least = most then (m, fork) else countOptional part (most - least) (m.add 1) fork

def text? : Node → Option (List Char)
  | .text chars => some chars
  | _ => none

def bytesOf (c : Counting) (chars : List Char) : List Nat :=
  let bytes := chars.flatMap fun ch => Text.codePointBytes ch.toNat
  if c.backward then bytes.reverse else bytes

mutual

/-- Lays out a pattern, and says whether its machine ends in a fork. -/
def layOut (c : Counting) : Node → Machine → Machine × Bool
  | .empty, m | .look _, m => (m.add 1, false)
  | .text chars, m => (m.add (bytesOf c chars).length, false)
  | .set s, m => (m.addSet c.packing s, false)
  | .repetition body least most _, m =>
      countRepetition (body.layOut c) body.nullable least most m
  | .group body, m =>
      if c.backward then body.layOut c m
      else
        let (m, fork) := body.layOut c (m.add 1)
        ((m.leave fork).add 1, false)
  | .sequence parts, m => layOutParts c parts m false
  | .choice branches, m =>
      match branches.mapM text? with
      | some texts =>
          let texts := texts.map (bytesOf c)
          let longest := texts.foldl (fun n t => max n t.length) 0
          ((m.add 1).addTexts (longest + 1) texts, false)
      | none => (layOutBranches c 2 branches m, false)

/-- Lays out parts one after the other; `fork` says whether the machine so far
ends in a fork. -/
def layOutParts (c : Counting) : List Node → Machine → (fork : Bool) → Machine × Bool
  | [], m, fork => (m, fork)
  | n :: rest, m, fork =>
      -- A machine that is too large already is not laid out any further.
      if m.isFull then (m, fork)
      else if c.backward then
        let (m, fork) := layOutParts c rest m fork
        let (m, next) := n.layOut c m
        (m.leave fork, next)
      else
        let (m, next) := n.layOut c m
        layOutParts c rest (m.leave fork) next

/-- Lays out branches beside one another; the fork and the state that they end
in come after the first `before` of them. -/
def layOutBranches (c : Counting) : (before : Nat) → List Node → Machine → Machine
  | _, [], m => m
  | before, n :: rest, m =>
      let (m, fork) := n.layOut c m
      let m := (m.leave fork).fork 1
      layOutBranches c (before - 1) rest (if before = 1 then m.add 2 else m)

end

mutual

/-- Whether a pattern matches only where a condition holds, at its start or at
its end. -/
def isBound (l : Look) (backward : Bool) : Node → Bool
  | .look k => k == l
  | .repetition body least _ _ => least != 0 && body.isBound l backward
  | .group body => body.isBound l backward
  | .sequence parts => partsBound l backward parts
  | .choice branches => branchesBound l backward branches
  | .empty | .text _ | .set _ => false

def partsBound (l : Look) (backward : Bool) : List Node → Bool
  | [] => false
  | n :: rest =>
      if backward then partsBound l true rest || (allTakeNothing rest && n.isBound l true)
      else n.isBound l false || (n.takesNothing && partsBound l false rest)

def branchesBound (l : Look) (backward : Bool) : List Node → Bool
  | [] => true
  | n :: rest => n.isBound l backward && branchesBound l backward rest

end

/-- The machine of a pattern. One that is not bound to the end of the text at
which reading begins has a loop in front that takes any bytes; reading forward
also remembers the match. -/
def machine (c : Counting) (n : Node) : Machine :=
  let anchor := if c.backward then Look.textEnd else Look.textStart
  let m : Machine :=
    if n.isBound anchor c.backward then { states := 1 }
    else (({} : Machine).add 2).branch 1 |>.fork 2
  let (m, fork) := n.layOut c (if c.backward then m else m.add 1)
  (m.leave fork).add (if c.backward then 1 else 2)

/-- How many texts a choice has to hold to be searched for without a machine. -/
def manyTexts : Nat := 3000

def isWordList : Node → Bool
  | .choice branches => manyTexts ≤ branches.length && branches.all fun n => n.text?.isSome
  | _ => false

def fitsMemory (n : Node) : Bool :=
  let loose := fun backward => !(n.machine ⟨backward, .loose⟩).isFull
  n.isWordList || (loose false && loose true) ||
    (!(n.machine ⟨false, .forward⟩).isFull && !(n.machine ⟨true, .backward⟩).isFull)

end Node

end PolicyHost.Pattern
