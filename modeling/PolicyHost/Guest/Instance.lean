import PolicyHost.Config
import PolicyHost.Guest.Dispatch

/-!
# Starting a guest

A guest gets a memory of its own with its texts in it, runs its start action,
is checked for the operations that the host needs, and tells its tables. Up to
the start action every stop is a failure of the engine; builtins can be called
only after the tables are read.
-/

namespace PolicyHost.Guest

open Builtin

def offered : List String :=
  ["opa_abort", "opa_println"]

def initialStore (g : Guest) (config : Config) : Store where
  memory := .zeroed config.initialPages.toNat
  peak := config.initialBytes
  limit := config.memoryLimit.bytes
  heap := g.heapStart
  fuel := config.maxFuel

/-- Checks that the host has what the guest needs. The memory of the host has
no bound of its own, so a guest cannot ask for one. -/
def link (g : Guest) (config : Config) : Except Error Unit :=
  match g.needs.find? (· ∉ offered) with
  | some need => .error (.engine (.notLinked need))
  | none =>
      if config.initialPages.toNat < g.minPages ∨ g.pageBound.isSome then
        .error (.engine (.notLinked "memory"))
      else .ok ()

def placeSegments (g : Guest) : Run Unit :=
  g.segments.forM fun (a, bytes) => writeBytes a bytes

/-- Brings the guest to where its exports can be called. A stop on the way is
a failure of the engine. -/
def boot (g : Guest) (host : Host) : Run Unit :=
  tryCatch
    (do
      g.placeSegments
      if let some code := g.start then code.invoke host)
    fun
      | .trap cause => throw (.engine (.startTrapped cause))
      | e => throw e

def require (g : Guest) (e : Export) : Except Error Unit :=
  if e ∈ g.absent then .error (.missingExport e.name .absent)
  else if e ∈ g.mistyped then .error (.missingExport e.name .mistyped)
  else .ok ()

/-- Checks an operation that the guest may leave out. -/
def permit (g : Guest) (e : Export) : Except Error Unit :=
  if e ∈ g.absent then .ok () else g.require e

def requiredExports : List Export :=
  [.allocate, .parse, .dump, .evaluate, .newContext, .setInput, .setData, .getResult, .getHeap,
   .setHeap]

def optionalExports : List Export :=
  [.setEntrypoint, .addPath, .removePath]

structure Tables where
  builtins : BuiltinTable
  entrypoints : Keyed String EntrypointId

def tellTables (g : Guest) (host : Host) (registry : Registry) : Run Tables := do
  g.require .builtins
  let names ← g.builtins.invoke host
  let builtins ← BuiltinTable.resolve registry (← dump g host names)
  if .entrypoints ∈ g.absent then return ⟨builtins, []⟩
  g.require .entrypoints
  let names ← g.entrypoints.invoke host
  return ⟨builtins, ← entrypointsOfValue (← dump g host names)⟩

/-- Starts a guest and reads its tables. As long as they are not read it has no
builtins. -/
def instantiate (g : Guest) (config : Config) (registry : Registry) : Run Tables := do
  g.link config
  let host := g.host ⟨none, config.strict⟩
  g.boot host
  requiredExports.forM fun e => g.require e
  optionalExports.forM fun e => g.permit e
  g.tellTables host registry

end PolicyHost.Guest
