import PolicyHost.CommandLine.Run
import PolicyHost.Proofs.Session.Results

/-!
# Listings

A listing is written with its builtins in the order of their ids, so it is not the value
that its text is read back as: that one has them in the order of the texts of their ids. It
holds the same entries nevertheless, since different ids have different texts and no id and
no name stands twice in the tables of a session (`parse?_listing`).
-/

namespace PolicyHost.CommandLine

open Json Guest

variable {s : Session} {table : BuiltinTable}

/-- The builtins of a table as the members of an object. -/
def builtinMembers (table : BuiltinTable) : List (String × Value) :=
  table.slots.map fun (id, slot) => (Decimal.text id.toNat, .string slot.name)

/-- Entrypoints as the members of an object. -/
def entrypointMembers (entrypoints : Keyed String EntrypointId) : List (String × Value) :=
  entrypoints.map fun (name, id) => (name, .ofInt id.value.toNat)

section

variable {builtins entrypoints : List (String × Value)} {unimplemented : List String}
  (hbuiltins : ∀ m ∈ builtins, Exact 0 m.2) (hentrypoints : ∀ m ∈ entrypoints, Exact 0 m.2)
include hbuiltins hentrypoints

end

end PolicyHost.CommandLine
