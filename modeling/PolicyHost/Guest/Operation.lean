import PolicyHost.Guest.Code

/-!
# The operations of a guest that is described

What it does when the host calls one of its exports, evaluation apart: taking
bytes from its heap, copying JSON texts there, making and filling evaluation
contexts, and updating paths.
-/

namespace PolicyHost.Guest

/-- Takes new bytes from the heap: moves the pointer past them, and asks for
the missing pages when it leaves the memory. The pointer stays moved when
they are refused. -/
def allocate (g : Description) (count : UInt32) : Run UInt32 := do
  if g.refusesFrom.any (· ≤ count) then return -16
  let start := (← get).heap
  -- The sum wraps, and so does the size of a memory that has every page.
  let top := start + count
  modify fun s => { s with heap := top }
  if g.grows then
    let size := UInt32.ofNat (← get).memory.size
    if size < top then
      if (← growMemory (((top - size) >>> 16).toNat + 1)) = growthRefused then stop .unreachable
  return start

/-- Copies so many bytes from one place of the memory to another. Both places
have to lie inside the memory. -/
def copy (target source count : Nat) : Run Unit := do
  if (← get).memory.holds source count then
    writeBytes target ((← get).memory.read source count)
  else stop .outOfBounds

/-- What the parser does with a text, unless it copies it: the first refusal
whose beginning the text has. -/
def Description.refusal? (g : Description) (text : List UInt8) : Option Refusal :=
  (g.refusals.find? fun (start, _) => start.isPrefixOf text).map (·.2)

/-- Parses the JSON text of so many bytes at an address: the value is a copy
of the text, ended by a zero. The null address means that it is refused. The
bytes that the parser looks at first have to lie inside the memory, also those
after a short text. -/
def parse (g : Description) (a count : UInt32) : Run UInt32 := do
  modify fun s => { s with globals := s.globals + 1 }
  -- The texts are counted, also those that are refused.
  if g.parseLimit.any (· < (← get).globals) then return 0
  unless (← get).memory.holds a.toNat g.peeks do stop .outOfBounds
  match g.refusal? ((← get).memory.read a.toNat count.toNat) with
  | some .reject => return 0
  | some .trap => stop .unreachable
  | some .abort => abort g.texts.parseAbort
  | none =>
      let value ← allocate g (count + 1)
      copy value.toNat a.toNat count.toNat
      writeBytes (value.toNat + count.toNat) [0]
      return value

/-- Fills a part of an evaluation context, if the guest keeps it. -/
def fillPart (context : UInt32) (place : Option Nat) (w : UInt32) : Run Unit :=
  match place with
  | some place => writeWord (context.toNat + place) w
  | none => pure ()

/-- Makes an evaluation context with all its parts zero. -/
def newContext (g : Description) : Run UInt32 := do
  let context ← allocate g g.context.size
  let parts := [some g.context.input, g.context.data, g.context.entrypoint, some g.context.result]
  parts.forM fun place => fillPart context place 0
  return context

/-- Reads a part of an evaluation context; one that the guest does not keep
is zero. -/
def readPart (context : UInt32) (place : Option Nat) : Run UInt32 :=
  match place with
  | some place => readWord (context.toNat + place)
  | none => return 0

/-- The result set with the value at an address as its only result; empty for
the null address. -/
def wrap (g : Description) (value : UInt32) : Run UInt32 := do
  if value = 0 then return g.texts.emptySet
  let count := (← readText value).length
  let before := openingText.utf8ByteSize
  let after := closingText.utf8ByteSize
  let set ← allocate g (UInt32.ofNat (before + count + after + 1))
  copy set.toNat g.texts.opening.toNat before
  copy (set.toNat + before) value.toNat count
  copy (set.toNat + before + count) g.texts.closing.toNat after
  writeBytes (set.toNat + before + count + after) [0]
  return set

/-- Updates a path of the data. The guest prints its arguments if it does
that, and answers with its code. -/
def updatePath (update : PathUpdate) (arguments : List UInt32) : Run Int := do
  if update.prints then arguments.forM print
  return update.code

end PolicyHost.Guest
