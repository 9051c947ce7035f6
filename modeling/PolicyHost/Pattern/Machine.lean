import PolicyHost.Number.Power
import PolicyHost.Text.ByteRange
import PolicyHost.Unicode.CharSet

/-!
# Machines that read bytes

The size of a machine that reads a text byte by byte: how many states it has,
and how much room the links between them take. Two parts of a machine are
worth sharing, and here they are laid out: sets of characters, whose byte
sequences have ends in common, and choices between texts, which have
beginnings in common.

What is shared within a set is remembered in a table of fixed size, in which a
later part takes the place of an earlier one with the same slot. The slot
depends on the numbers of the states that a part leads to, so a set is laid
out with the states before it counted.
-/

namespace PolicyHost.Pattern

open Unicode (CharSet)
open Text (ByteRange byteRanges)

/-- The size of a machine: its states, and the bytes that their links take. -/
structure Machine where
  states : Nat := 0
  links : Nat := 0

namespace Machine

/-- The bytes of a state without its links. -/
def stateBytes : Nat := 32

/-- The bytes of a link of a fork. -/
def forkBytes : Nat := 4

/-- The bytes of a link that is followed on a range of bytes. -/
def rangeBytes : Nat := 8

/-- How many bytes a machine may take. -/
def limit : Nat := 10 * 2 ^ 20

def bytes (m : Machine) : Nat :=
  stateBytes * m.states + m.links

def isFull (m : Machine) : Bool :=
  limit < m.bytes

/-- Adds states without links of their own. -/
def add (m : Machine) (states : Nat) : Machine :=
  { m with states := m.states + states }

def fork (m : Machine) (links : Nat) : Machine :=
  { m with links := m.links + forkBytes * links }

def branch (m : Machine) (ranges : Nat) : Machine :=
  { states := m.states + 1, links := m.links + rangeBytes * ranges }

/-- Leads on from a state, which takes a link if it is a fork. -/
def leave (m : Machine) (isFork : Bool) : Machine :=
  if isFork then m.fork 1 else m

/-! ## Slots -/

def checksumStart : UInt64 := 14695981039346656037

def checksum (sum : UInt64) (n : Nat) : UInt64 :=
  (sum ^^^ n.toUInt64) * 1099511628211

/-! ## Sets read forward -/

/-- A link: the range of bytes it is followed on and the state it leads to. -/
structure Link where
  range : ByteRange
  target : Nat
deriving BEq

/-- A machine with a table of the states that can be shared. -/
structure Shared where
  machine : Machine
  /-- The state that all sequences lead to. -/
  goal : Nat
  slots : Array (List Link × Nat)

/-- The slot for a state with some links, of `size` slots. -/
def slotOf (size : Nat) (links : List Link) : Nat :=
  let sum := links.foldl
    (fun sum l => checksum (checksum (checksum sum l.range.1) l.range.2) l.target) checksumStart
  (sum % size.toUInt64).toNat

/-- The state with some links, which is a new one unless the table has it. -/
def Shared.state (s : Shared) (links : List Link) : Nat × Shared :=
  let slot := slotOf s.slots.size links
  let (known, id) := s.slots.getD slot ([], 0)
  if known == links then (id, s)
  else
    let id := s.machine.states
    (id, { s with
      machine := s.machine.branch links.length, slots := s.slots.set! slot (links, id) })

/-- A state that is not settled yet: the links that are, latest first, and the
range of the one whose target is not. -/
structure Unsettled where
  links : List Link := []
  last : Option ByteRange := none

/-- The links of a state when the last one leads to `target`. -/
def Unsettled.settle (u : Unsettled) (target : Nat) : List Link :=
  match u.last with
  | some range => ⟨range, target⟩ :: u.links
  | none => u.links

/-- Settles states of which each leads to the next, and the last one to the
goal. -/
def settleAll : List Unsettled → Shared → Nat × Shared
  | [], s => (s.goal, s)
  | u :: deeper, s =>
      let (target, s) := settleAll deeper s
      s.state (u.settle target).reverse

/-- Adds a sequence of byte ranges. As far as it begins like the sequence
before it nothing is settled; from there on the earlier one is. -/
def addSequence : List Unsettled → List ByteRange → Shared → List Unsettled × Shared
  | u :: deeper, r :: rest, s =>
      if u.last == some r then
        let (deeper, s) := addSequence deeper rest s
        (u :: deeper, s)
      else
        let (target, s) := settleAll deeper s
        (⟨u.settle target, some r⟩ :: rest.map fun r => ⟨[], some r⟩, s)
  | us, _, s => (us, s)

def forwardSlots : Nat := 10000

/-- Lays out the sequences of a set, read forward. -/
def packForward (m : Machine) (sequences : List (List ByteRange)) : Machine :=
  let s : Shared := ⟨m.add 1, m.states, Array.replicate forwardSlots ([], 0)⟩
  let (us, s) := sequences.foldl (fun (us, s) r => addSequence us r s) ([{}], s)
  (settleAll us s).2.machine

/-! ## Sets read backward -/

def backwardSlots : Nat := 1000

/-- A link that no range has, for a slot that is free. -/
def noLink : Link := ⟨(1, 0), 0⟩

/-- Adds a sequence of byte ranges that is read from its end: a state for each
range, leading to the state for the range before it. -/
def addReversed : List ByteRange → (target : Nat) → Machine → Array (Link × Nat) →
    Machine × Array (Link × Nat)
  | [], _, m, slots => (m.fork 1, slots)
  | r :: rest, target, m, slots =>
      let sum := checksum (checksum (checksum checksumStart target) r.1) r.2
      let slot := (sum % slots.size.toUInt64).toNat
      let (known, id) := slots.getD slot (noLink, 0)
      if known == ⟨r, target⟩ then addReversed rest id m slots
      else addReversed rest m.states (m.add 1) (slots.set! slot (⟨r, target⟩, m.states))

/-- Lays out the sequences of a set, read backward: a fork, the state that the
characters end in, and a way from the fork to that state for each sequence. -/
def packBackward (m : Machine) (sequences : List (List ByteRange)) : Machine :=
  let goal := m.states + 1
  let slots := Array.replicate backwardSlots (noLink, 0)
  (sequences.foldl (fun (m, slots) r => addReversed r goal m slots) (m.add 2, slots)).1

/-! ## Sets -/

inductive Packing where
  | forward
  | backward
  /-- With room for every way of reading, as if nothing were shared. -/
  | loose
deriving DecidableEq

/-- Lays out a set. Sets of ASCII characters are one state, whose links lead to
another. -/
def addSet (p : Packing) (s : CharSet) (m : Machine) : Machine :=
  if s.isBelow 128 then (m.add 1).branch s.ranges.length
  else
    let sequences := s.ranges.flatMap byteRanges
    match p with
    | .forward => m.packForward sequences
    | .backward => m.packBackward sequences
    | .loose => sequences.foldl (fun m r => (m.add r.length).branch r.length) (m.add 2)

/-! ## Texts -/

/-- Cuts texts at those that are empty; `run` and `done` hold what was passed,
latest first. -/
def cutAtEmpty : List (List Nat) → (run : List (List Nat)) → (done : List (List (List Nat))) →
    List (List (List Nat))
  | [], run, done => (run.reverse :: done).reverse
  | [] :: rest, run, done => cutAtEmpty rest [] (run.reverse :: done)
  | t :: rest, run, done => cutAtEmpty rest (t :: run) done

def restsAfter (b : Nat) (texts : List (List Nat)) : List (List Nat) :=
  texts.filterMap fun
    | c :: rest => if c = b then some rest else none
    | [] => none

/-- Lays out a choice between texts that share what they begin with, in the
order of preference: a text that ends here parts those before it from those
after it. The budget bounds the length of the texts. -/
def addTexts : (budget : Nat) → List (List Nat) → Machine → Machine
  | 0, _, m => m
  | budget + 1, texts, m =>
      let texts := match texts with
        | [] :: rest => [] :: rest.dropWhile List.isEmpty
        | texts => texts
      let runs := cutAtEmpty texts [] []
      let m := (m.add 1).fork (runs.length - 1)
      runs.foldl (fun m run =>
        let firsts := (run.filterMap List.head?).eraseDups
        let m := match firsts with
          | [] => m
          | [_] => (m.fork 1).add 1
          | _ => (m.fork 1).branch firsts.length
        firsts.foldl (fun m b =>
          let rests := restsAfter b run
          if rests.all List.isEmpty then m else addTexts budget rests m) m) m

end Machine

end PolicyHost.Pattern
