import PolicyHost.Error
import PolicyHost.Guest.Memory
import PolicyHost.Text.Utf8

/-!
# The state of a guest

A `Store` is what a guest works on: its memory, the heap pointer and the
fuel that is left. `Run` is a piece of work on a store that gives a result or
an error; what it did to the store before an error stays done.

The host grants memory up to a limit, and remembers how much it granted at
most. It lets the guest run while there is fuel.
-/

namespace PolicyHost.Guest

/-- What a guest works on. -/
structure Store where
  memory : Memory
  /-- The most bytes that the memory has had. -/
  peak : Nat
  /-- The most bytes that the memory may have. -/
  limit : Nat
  heap : UInt32
  /-- Whatever else the guest keeps outside of its memory, as one number. -/
  globals : Nat := 0
  /-- The fuel that is left, if it is metered. -/
  fuel : Option UInt64 := none
  /-- The lines that were printed, the latest first. -/
  printed : List String := []

/-- Work on a store. -/
abbrev Run := ExceptT Error (StateM Store)

def stop {α : Type} (cause : TrapCause) : Run α :=
  throw (.trap cause)

/-- Takes so much fuel. A guest that uses up all it has is stopped. -/
def burn (amount : UInt64) : Run Unit := do
  match (← get).fuel with
  | some left =>
      if left ≤ amount then
        modify fun s => { s with fuel := some 0 }
        stop .outOfFuel
      else modify fun s => { s with fuel := some (left - amount) }
  | none => pure ()

/-- What a guest sees when the host gives it no more pages: minus one. -/
def growthRefused : UInt32 := -1

/-- Asks the host for more pages, and gives how many there were before. The
host refuses what would pass the limit. -/
def growMemory (pages : Nat) : Run UInt32 := do
  let present := (← get).memory
  let wanted := present.size + pages * pageSize
  if (← get).limit < wanted then return growthRefused
  else
    modify fun s => { s with memory := s.memory.grow pages, peak := max s.peak wanted }
    return .ofNat present.pages.size

/-- Writes bytes, which must have their place inside the memory. -/
def writeBytes (a : Nat) (bytes : List UInt8) : Run Unit := do
  if (← get).memory.holds a bytes.length then
    modify fun s => { s with memory := s.memory.write a bytes }
  else stop .outOfBounds

def writeWord (a : Nat) (w : UInt32) : Run Unit :=
  writeBytes a (Memory.wordBytes w)

/-- Reads a word, which must lie inside the memory. -/
def readWord (a : Nat) : Run UInt32 := do
  if (← get).memory.holds a 4 then return (← get).memory.word a
  else stop .outOfBounds

/-- The text at an address, which must end inside the memory. -/
def readText (a : UInt32) : Run (List UInt8) := do
  match (← get).memory.text? a.toNat with
  | some bytes => return bytes
  | none => stop .outOfBounds

/-- The text at an address of an image of so many bytes, as the host reads it:
the bytes before the first zero. There has to be one inside the image. -/
def textWithin (size : Nat) (image : Nat → UInt8) (a : Address) : Except Error (List UInt8) :=
  if size < a.offset.toNat then .error (.trap (.readOutside a))
  else
    match Memory.scan image (size - a.offset.toNat) a.offset.toNat [] with
    | some bytes => .ok bytes
    | none => .error (.transfer (.unterminated a))

def Memory.textAt (m : Memory) (a : Address) : Except Error (List UInt8) :=
  textWithin m.size m.get a

theorem Memory.textAt_eq (m : Memory) (a : Address) : m.textAt a =
    if m.size < a.offset.toNat then .error (.trap (.readOutside a))
    else
      match m.text? a.offset.toNat with
      | some bytes => .ok bytes
      | none => .error (.transfer (.unterminated a)) := rfl

/-- What the host reports of a text that a guest gives up with. -/
def Memory.abortText (m : Memory) (a : Address) : String :=
  match m.textAt a with
  | .ok bytes => String.ofList (Text.decodeLossy bytes)
  | .error e => "<unreadable abort message at " ++ a.toText ++ ": " ++ e.message ++ ">"

def abort {α : Type} (a : UInt32) : Run α := do
  throw (.aborted ((← get).memory.abortText ⟨a⟩))

/-- Prints the text at an address; one that the host cannot read is passed
over. -/
def print (a : UInt32) : Run Unit :=
  modify fun s =>
    match s.memory.textAt ⟨a⟩ with
    | .ok bytes => { s with printed := String.ofList (Text.decodeLossy bytes) :: s.printed }
    | .error _ => s

end PolicyHost.Guest
