import PolicyHost.Number.Hexadecimal
import PolicyHost.Number.Power

/-!
# Addresses and ids

The words that host and guest exchange: an address is a place in the guest's
memory, zero being the null address, and ids name builtins and entrypoints.
All are 32 bits wide. The guest's instructions see the same bits as signed
integers.
-/

namespace PolicyHost

/-- A place in a guest's memory. -/
structure Address where
  /-- The distance from the start of the memory in bytes. -/
  offset : UInt32
deriving DecidableEq, Inhabited

/-- The number of a builtin in a guest's table. -/
structure BuiltinId where
  value : UInt32
deriving DecidableEq, Inhabited

structure EntrypointId where
  value : UInt32
deriving DecidableEq, Inhabited

/-- The word with the bits of a signed 32-bit integer. -/
def wordOfSigned (n : Int) : UInt32 :=
  UInt32.ofNat (n % 2 ^ 32).toNat

/-- The signed 32-bit integer with the bits of a word. -/
def signedOfWord (w : UInt32) : Int :=
  Int.bmod w.toNat (2 ^ 32)

namespace Address

/-- The address that stands for no value. -/
def null : Address := ⟨0⟩

def isNull (a : Address) : Bool :=
  a.offset == 0

/-- An address in eight hexadecimal digits. -/
def toText (a : Address) : String :=
  String.ofList ('0' :: 'x' :: [7, 6, 5, 4, 3, 2, 1, 0].map fun i =>
    Hexadecimal.digit (a.offset.toNat / 16 ^ i % 16))

end Address

end PolicyHost
