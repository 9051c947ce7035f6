import PolicyHost.Pattern.Node

/-!
# Compiled patterns

A pattern compiles to a list of instructions that refer to one another by
index. A pattern is laid out from its end towards its start: `emit n next`
adds the instructions of `n`, all of whose ways out lead to `next`, and gives
the index where they begin.
-/

namespace PolicyHost.Pattern

/-- An instruction of a compiled pattern. -/
inductive Instruction where
  /-- Takes one character of a set and goes on at an index. -/
  | take (chars : Unicode.CharSet) (next : Nat)
  /-- Goes on at an index where a condition holds. -/
  | check (condition : Look) (next : Nat)
  /-- Goes on at either of two indices, the first preferred. -/
  | fork (first second : Nat)
  | accept
deriving Inhabited

/-- A compiled pattern: its instructions and the index it starts at. -/
structure Program where
  code : Array Instruction
  start : Nat

namespace Program

def push (code : Array Instruction) (i : Instruction) : Nat × Array Instruction :=
  (code.size, code.push i)

/-- A fork that prefers `inside` when greedy, and `outside` otherwise. -/
def loopFork (greedy : Bool) (inside outside : Nat) : Instruction :=
  if greedy then .fork inside outside else .fork outside inside

def chain (layOut : Nat → Array Instruction → Nat × Array Instruction) :
    (times : Nat) → (next : Nat) → Array Instruction → Nat × Array Instruction
  | 0, next, code => (next, code)
  | times + 1, next, code =>
      let (start, code) := layOut next code
      chain layOut times start code

/-- Lays out something up to `times` in a row, each of them optional and
leaving for `out`. -/
def optionalChain (layOut : Nat → Array Instruction → Nat × Array Instruction) (greedy : Bool)
    (out : Nat) : (times : Nat) → (next : Nat) → Array Instruction → Nat × Array Instruction
  | 0, next, code => (next, code)
  | times + 1, next, code =>
      let (body, code) := layOut next code
      let (start, code) := push code (loopFork greedy body out)
      optionalChain layOut greedy out times start code

/-- Lays out something at least once and as often as it matches. -/
def loop (layOut : Nat → Array Instruction → Nat × Array Instruction) (greedy : Bool)
    (next : Nat) (code : Array Instruction) : Nat × Array Instruction :=
  -- The fork is filled in once the body that it leads to is laid out.
  let (again, code) := push code (.fork next next)
  let (body, code) := layOut again code
  (body, code.set! again (loopFork greedy body next))

/-- Lays out something as often as it matches. What can match nothing is
laid out as an optional loop, so that a way through it that takes nothing is
not preferred to leaving. -/
def star (layOut : Nat → Array Instruction → Nat × Array Instruction) (nullable greedy : Bool)
    (next : Nat) (code : Array Instruction) : Nat × Array Instruction :=
  if nullable then
    let (body, code) := loop layOut greedy next code
    push code (loopFork greedy body next)
  else
    let (again, code) := push code (.fork next next)
    let (body, code) := layOut again code
    (again, code.set! again (loopFork greedy body next))

mutual

/-- Lays out a pattern in front of `next`. -/
def emit : Node → (next : Nat) → Array Instruction → Nat × Array Instruction
  | .empty, next, code => (next, code)
  | .text chars, next, code =>
      chars.reverse.foldl (fun (next, code) c => push code (.take (.single c) next)) (next, code)
  | .set s, next, code => push code (.take s next)
  | .look l, next, code => push code (.check l next)
  | .sequence parts, next, code => emitSequence parts next code
  | .choice branches, next, code => emitChoice branches next code
  | .group body, next, code => emit body next code
  | .repetition body least most greedy, next, code =>
      match least, most with
      | 0, none => star (emit body) body.nullable greedy next code
      -- The last of the rounds that have to be is the loop itself.
      | least + 1, none =>
          let (start, code) := loop (emit body) greedy next code
          chain (emit body) least start code
      | least, some most =>
          let (start, code) := optionalChain (emit body) greedy next (most - least) next code
          chain (emit body) least start code

def emitSequence : List Node → (next : Nat) → Array Instruction → Nat × Array Instruction
  | [], next, code => (next, code)
  | n :: rest, next, code =>
      let (start, code) := emitSequence rest next code
      emit n start code

def emitChoice : List Node → (next : Nat) → Array Instruction → Nat × Array Instruction
  | [], next, code => (next, code)
  | [n], next, code => emit n next code
  | n :: m :: rest, next, code =>
      let (others, code) := emitChoice (m :: rest) next code
      let (first, code) := emit n next code
      push code (.fork first others)

end

def ofNode (n : Node) : Program :=
  let (start, code) := emit n 0 #[.accept]
  ⟨code, start⟩

end Program

end PolicyHost.Pattern
