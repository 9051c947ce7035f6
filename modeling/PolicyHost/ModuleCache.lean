import PolicyHost.Number.Binary64

/-!
# The cache of compiled modules

The cache keeps the modules that were used last, latest first, up to its
capacity. Looking a module up and putting one in are uses; asking whether a
module is there is not. Every look-up is counted, as a hit or as a miss, and
the counts outlast the modules. A count that is full starts again.
-/

namespace PolicyHost

/-- How many look-ups found their module and how many did not. -/
structure CacheStats where
  hits : UInt64 := 0
  misses : UInt64 := 0
deriving DecidableEq

/-- The part of the look-ups that found their module, once there is one. -/
def CacheStats.hitRate (s : CacheStats) : Option Binary64 := do
  (← Binary64.ofInt? s.hits.toNat).div? (← Binary64.ofInt? (s.hits + s.misses).toNat)

structure ModuleCache (κ α : Type) where
  capacity : Nat
  /-- The modules under their keys, the one used last in front. -/
  entries : List (κ × α) := []
  stats : CacheStats := {}

namespace ModuleCache

variable {κ α : Type} [DecidableEq κ]

/-- The empty cache for so many modules, and at least for one. -/
def withCapacity (capacity : Nat) : ModuleCache κ α where
  capacity := max capacity 1

def without (key : κ) (entries : List (κ × α)) : List (κ × α) :=
  entries.filter (·.1 ≠ key)

/-- Looks a module up, which is a use of it. -/
def get (key : κ) (c : ModuleCache κ α) : Option α × ModuleCache κ α :=
  match c.entries.find? (·.1 = key) with
  | some (_, found) =>
      (some found, { c with
        entries := (key, found) :: without key c.entries
        stats := { c.stats with hits := c.stats.hits + 1 } })
  | none => (none, { c with stats := { c.stats with misses := c.stats.misses + 1 } })

def contains (key : κ) (c : ModuleCache κ α) : Bool :=
  c.entries.any (·.1 = key)

/-- Puts a module in, which is a use of it. The one used longest ago goes when
there is no room. -/
def insert (key : κ) (found : α) (c : ModuleCache κ α) : ModuleCache κ α :=
  { c with entries := ((key, found) :: without key c.entries).take c.capacity }

def clear (c : ModuleCache κ α) : ModuleCache κ α :=
  { c with entries := [] }

def size (c : ModuleCache κ α) : Nat :=
  c.entries.length

end ModuleCache

end PolicyHost
