import PolicyHost.Builtin.Registry
import PolicyHost.Error

/-!
# The tables of a guest

A guest tells the names and the ids of the builtins that it calls and of its
entrypoints, each as a JSON object of ids. A `BuiltinTable` joins the first
of these with a registry: every id has a slot with the name and the entry of
that name, if the registry has it. Names are taken in their order, so of
several names with one id the last has the slot, and all are known by their id.
-/

namespace PolicyHost.Guest

open Json Builtin

def idsOfValue? : Value → Option (Keyed String UInt32)
  | .object members => members.mapM fun (name, v) =>
      (v.natBelow? (2 ^ 32)).map fun id => (name, UInt32.ofNat id)
  | _ => none

/-- A builtin that a guest calls by its id. -/
structure Slot where
  name : String
  entry : Option Entry

/-- The builtins that a guest calls. -/
structure BuiltinTable where
  slots : Keyed UInt32 Slot
  ids : Keyed String UInt32

namespace BuiltinTable

/-- The table of a guest's ids and a registry. -/
def ofIds (registry : Registry) (ids : Keyed String UInt32) : BuiltinTable :=
  ⟨.ofList (ids.map fun (name, id) => (id, ⟨name, registry.get? name⟩)), ids⟩

def resolve (registry : Registry) (v : Value) : Except Error BuiltinTable :=
  match idsOfValue? v with
  | some ids => .ok (ofIds registry ids)
  | none => .error (.transfer (.badTable "builtin"))

def get? (t : BuiltinTable) (id : BuiltinId) : Option Slot :=
  t.slots.get? id.value

def idOf? (t : BuiltinTable) (name : String) : Option BuiltinId :=
  (t.ids.get? name).map (⟨·⟩)

/-- The names of the builtins that the registry does not have, by their ids. -/
def unimplemented (t : BuiltinTable) : List String :=
  (t.slots.filter (·.2.entry.isNone)).map (·.2.name)

def size (t : BuiltinTable) : Nat :=
  t.slots.length

end BuiltinTable

def entrypointsOfValue (v : Value) : Except Error (Keyed String EntrypointId) :=
  match idsOfValue? v with
  | some ids => .ok (ids.map fun (name, id) => (name, ⟨id⟩))
  | none => .error (.transfer (.badTable "entrypoint"))

end PolicyHost.Guest
