import PolicyHost.Builtin.Catalog

/-!
# Registries of builtins

A registry holds the builtins that policies can call, under their names. Its
entries are the builtins of the catalog or any others. Calling an entry checks
the number of operands first.
-/

namespace PolicyHost.Builtin

open Json

/-- A builtin as policies call it. -/
structure Entry where
  name : String
  arity : Nat
  run : List Value → Answer

/-- Calls an entry, which needs exactly its number of operands. -/
def Entry.call (entry : Entry) (operands : List Value) : Answer :=
  if operands.length ≠ entry.arity then .error (.arity entry.name entry.arity operands.length)
  else entry.run operands

def Shipped.entry (b : Shipped) : Entry :=
  ⟨b.name, b.arity, b.run⟩

structure Registry where
  entries : Keyed String Entry

namespace Registry

def empty : Registry := ⟨[]⟩

/-- Adds an entry, in exchange for one of the same name. -/
def insert (r : Registry) (entry : Entry) : Registry :=
  ⟨r.entries.insert entry.name entry⟩

/-- The registry with the builtins of the catalog. -/
def standard (clock : Int) : Registry :=
  (catalog clock).foldl (fun r b => r.insert b.entry) empty

def get? (r : Registry) (name : String) : Option Entry :=
  r.entries.get? name

def contains (r : Registry) (name : String) : Bool :=
  (r.get? name).isSome

def names (r : Registry) : List String :=
  r.entries.map (·.1)

def size (r : Registry) : Nat :=
  r.entries.length

end Registry

end PolicyHost.Builtin
