import PolicyHost.Error
import PolicyHost.Guest.Memory
import PolicyHost.Json.Reader

/-!
# Configurations

What a host may do with its guests: how much memory they start with and may
grow to, how much fuel an operation has, what becomes of failing builtins, and
how many compiled modules are kept. A configuration comes from `Settings`,
each of which may be absent, or from a JSON text. Reading a text checks the
types and the range of the memory limit only; `Config.validate` checks the rest.
-/

namespace PolicyHost

/-- How far the memory of a guest may grow, in megabytes. -/
structure MemoryLimit where
  megabytes : Nat
  inRange : 1 ≤ megabytes ∧ megabytes ≤ maxMegabytes
deriving DecidableEq

namespace MemoryLimit

/-- The limit of a number of megabytes, which must be in range. -/
def ofMegabytes (megabytes : Nat) : Except Error MemoryLimit :=
  if h : 1 ≤ megabytes ∧ megabytes ≤ maxMegabytes then .ok ⟨megabytes, h⟩
  else .error (.config (.memoryLimit megabytes))

def bytes (limit : MemoryLimit) : Nat :=
  limit.megabytes * 1024 * 1024

def standard : MemoryLimit := ⟨256, by decide⟩

def toText (limit : MemoryLimit) : String :=
  Decimal.text limit.megabytes ++ "MB"

end MemoryLimit

/-- What a host may do with its guests. -/
structure Config where
  initialPages : UInt32 := 5
  memoryLimit : MemoryLimit := .standard
  /-- The fuel of an operation, if it is bounded. -/
  maxFuel : Option UInt64 := none
  /-- Whether a failing builtin fails the evaluation; otherwise it has no value. -/
  strict : Bool := false
  cacheCapacity : UInt64 := 16
deriving DecidableEq

namespace Config

def initialBytes (c : Config) : Nat :=
  c.initialPages.toNat * Guest.pageSize

def validate (c : Config) : Except Error Unit :=
  if c.initialPages.toNat = 0 ∨ maxPages < c.initialPages.toNat then
    .error (.config (.initialPages c.initialPages.toNat))
  else if c.memoryLimit.bytes < c.initialBytes then
    .error (.config (.pagesAboveLimit c.initialPages.toNat c.memoryLimit.megabytes))
  else if c.cacheCapacity = 0 then .error (.config .cacheCapacity)
  else .ok ()

end Config

/-- The choices for a configuration; what is absent stays as it is by default. -/
structure Settings where
  initialPages : Option UInt32 := none
  /-- The memory limit in megabytes. -/
  memoryLimit : Option UInt64 := none
  maxFuel : Option UInt64 := none
  strict : Option Bool := none
  cacheCapacity : Option UInt64 := none

/-- The configuration with the choices made, which must be valid. The range
of the memory limit is checked first. -/
def Settings.build (s : Settings) : Except Error Config := do
  let standard : Config := {}
  let memoryLimit ← match s.memoryLimit with
    | some megabytes => MemoryLimit.ofMegabytes megabytes.toNat
    | none => pure standard.memoryLimit
  let config : Config :=
    { initialPages := s.initialPages.getD standard.initialPages
      memoryLimit
      maxFuel := s.maxFuel
      strict := s.strict.getD standard.strict
      cacheCapacity := s.cacheCapacity.getD standard.cacheCapacity }
  config.validate
  return config

namespace Config

open Json

/-- The names of the settings, in the order of a configuration written as an
array. -/
def settingNames : List String :=
  ["initial_memory_pages", "memory_limit", "max_fuel", "strict_builtin_errors",
   "module_cache_capacity"]

def limitOfValue? (v : Value) : Option MemoryLimit :=
  (v.natBelow? (2 ^ 64)).bind fun n => (MemoryLimit.ofMegabytes n).toOption

def set? (c : Config) (name : String) (v : Value) : Option Config :=
  if name = "initial_memory_pages" then
    (v.natBelow? (2 ^ 32)).map fun n => { c with initialPages := .ofNat n }
  else if name = "memory_limit" then
    (limitOfValue? v).map fun limit => { c with memoryLimit := limit }
  else if name = "max_fuel" then
    match v with
    | .null => some { c with maxFuel := none }
    | v => (v.natBelow? (2 ^ 64)).map fun n => { c with maxFuel := some (.ofNat n) }
  else if name = "strict_builtin_errors" then
    match v with
    | .bool b => some { c with strict := b }
    | _ => none
  else if name = "module_cache_capacity" then
    (v.natBelow? (2 ^ 64)).map fun n => { c with cacheCapacity := .ofNat n }
  else none

/-- Sets settings one after the other; no name may stand twice. -/
def ofMembers? (members : List (String × Value)) : Option Config :=
  if (members.map (·.1)).Nodup then
    members.foldlM (fun c (name, v) => c.set? name v) {}
  else none

/-- The configuration that a JSON text gives: an object of settings, or an
array of the first settings in order. -/
def parse? (text : String) : Option Config :=
  match Json.parse? text with
  -- The text is read again for the members, of which a value keeps only the last of a name.
  | some (.object _) => (parseMembers? text).bind ofMembers?
  | some (.array items) =>
      if items.length ≤ settingNames.length then ofMembers? (settingNames.zip items) else none
  | _ => none

def toValue (c : Config) : Value :=
  .ofMembers
    [("initial_memory_pages", .ofInt c.initialPages.toNat),
     ("memory_limit", .ofInt c.memoryLimit.megabytes),
     ("max_fuel", match c.maxFuel with | some n => .ofInt n.toNat | none => .null),
     ("strict_builtin_errors", .bool c.strict),
     ("module_cache_capacity", .ofInt c.cacheCapacity.toNat)]

end Config

end PolicyHost
