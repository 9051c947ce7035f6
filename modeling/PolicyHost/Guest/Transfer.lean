import PolicyHost.Guest.Code
import PolicyHost.Json.Reader
import PolicyHost.Json.Writer

/-!
# Values on their way into a guest and out of it

Values cross as compact JSON texts. On the way in the host takes bytes from
the guest's heap, writes the text there and has the guest parse it; on the way
out the guest names the place of a text, which the host reads up to the first
zero. A text that the guest's parser refuses is an error, and so is one that
the host's reader refuses.
-/

namespace PolicyHost.Guest

open Json

def encode (v : Value) : List UInt8 :=
  v.toText.toUTF8.toList

def decode? (bytes : List UInt8) : Option Value :=
  ofBytes? bytes.toByteArray

/-- The greatest length of a text that the host passes to a guest. -/
def longestText : Nat := 2 ^ 31 - 1

/-- Brings a text into the guest and has it parsed. -/
def loadText (g : Guest) (host : Host) (bytes : List UInt8) : Run UInt32 := do
  let count := bytes.length
  if longestText < count then throw (.transfer (.oversized count))
  let a ← (g.malloc (.ofNat count)).invoke host
  if (← get).memory.holds a.toNat count then
    modify fun s => { s with memory := s.memory.write a.toNat bytes }
  else stop (.writeOutside count ⟨a⟩)
  let value ← (g.jsonParse a (.ofNat count)).invoke host
  if value = 0 then throw (.refusedText ⟨a⟩ count)
  return value

/-- Brings a value into the guest. A text that no guest has room for is not even written. -/
def load (g : Guest) (host : Host) (v : Value) : Run UInt32 := do
  let count := v.textSize
  if longestText < count then throw (.transfer (.oversized count))
  loadText g host (encode v)

/-- Brings the value at an address out of the guest. -/
def dump (g : Guest) (host : Host) (a : UInt32) : Run Value := do
  let place ← (g.jsonDump a).invoke host
  match (← get).memory.textAt ⟨place⟩ with
  | .error e => throw e
  | .ok bytes =>
      match decode? bytes with
      | some v => return v
      | none => throw (.transfer (.malformed ⟨place⟩))

end PolicyHost.Guest
