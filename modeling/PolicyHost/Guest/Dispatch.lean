import PolicyHost.Guest.Table
import PolicyHost.Guest.Transfer

/-!
# Builtins that are called back

While its code runs a guest calls the host's builtins. `dispatch` finds the
builtin of an id, brings the operands out of the guest, calls the entry and brings
the answer in again, into the same heap that the guest is using. For that the
guest has to write values out and to parse them, and its code may call builtins
there as well. So `dispatch` answers with the host that is left for calls inside
of this one, until none is. The null address stands for no value.
-/

namespace PolicyHost.Guest

open Json Builtin

structure Services where
  /-- The builtins that the guest calls, once its tables are read. -/
  table : Option BuiltinTable
  /-- Whether a failing builtin fails the evaluation. -/
  strict : Bool

/-- The error that a failing builtin is for the host, if it is one. A wrong
number of operands always is, and so is a host that goes down; other failures
have no value unless the host is strict. -/
def Services.errorOf (services : Services) (entry : Entry) : Failure → Option Error
  | .arity name expected actual => some (.builtinArity name expected actual)
  | .crash name => some (.crashed (Failure.crash name).message)
  | failure =>
      if services.strict then some (.builtinFailed entry.name failure.message) else none

/-- Answers a guest's call of the builtin of an id, with the host that answers
the calls inside of it. -/
def answer (g : Guest) (services : Services) (inner : Host) : Host := fun id operands => do
  let some table := services.table | stop .earlyCall
  let some slot := table.get? ⟨id⟩ | throw (.notImplemented ⟨id⟩ none)
  let some entry := slot.entry | throw (.notImplemented ⟨id⟩ (some slot.name))
  let values ← operands.mapM (dump g inner)
  match entry.call values with
  | .ok (some v) => load g inner v
  | .ok none => return 0
  | .error failure =>
      match services.errorOf entry failure with
      | some e => throw e
      | none => return 0

/-- The host of a guest, as long as no more than so many calls are under way. -/
def dispatch (g : Guest) (services : Services) : (nesting : Nat) → Host
  | 0 => fun _ _ => stop .stackExhausted
  | nesting + 1 => answer g services (dispatch g services nesting)

/-- The host that a guest has. -/
def host (g : Guest) (services : Services) : Host :=
  dispatch g services g.nesting

end PolicyHost.Guest
