import PolicyHost.Guest.Basic
import PolicyHost.Guest.Store

/-!
# Guests

A guest is code behind the exports that its host calls. While code runs it can
call back: it prints, it gives up, and it has builtins answered by a `Host`.
Whatever code does is made of a few things, which `Confined` lists: it looks at
its store, writes inside its memory, asks for more of it, keeps its heap pointer
and its other globals, takes fuel, stops, and calls the host. In the model code is
any work that is made of these, whatever the guest was compiled from.
-/

namespace PolicyHost

namespace Guest

/-- How builtins are answered: by their ids and the addresses of the operands. -/
abbrev Host := UInt32 → List UInt32 → Run UInt32

/-- Work that is made of what the code of a guest can do. It `burns` if it may
take fuel. -/
inductive Confined (burns : Bool) : {α : Type} → (Host → Run α) → Prop
  | pure {α : Type} (a : α) : Confined burns fun _ => pure a
  | bind {α β : Type} {work : Host → Run α} {next : α → Host → Run β}
      (h : Confined burns work) (hnext : ∀ a, Confined burns (next a)) :
      Confined burns fun host => work host >>= fun a => next a host
  | look : Confined burns fun _ => get
  | stop {α : Type} (cause : TrapCause) : Confined burns fun _ => (stop cause : Run α)
  | abort {α : Type} (a : UInt32) : Confined burns fun _ => (abort a : Run α)
  | print (a : UInt32) : Confined burns fun _ => print a
  | grow (pages : Nat) : Confined burns fun _ => growMemory pages
  | write (a : Nat) (bytes : List UInt8) : Confined burns fun _ => writeBytes a bytes
  | heap (f : Store → UInt32) : Confined burns fun _ => modify fun s => { s with heap := f s }
  | globals (f : Store → Nat) : Confined burns fun _ => modify fun s => { s with globals := f s }
  | burn (h : burns = true) (amount : UInt64) : Confined burns fun _ => burn amount
  /-- The host answers a builtin. -/
  | builtin (id : UInt32) (operands : List UInt32) : Confined burns fun host => host id operands

/-- What is behind an export of a guest. -/
structure Code (α : Type) where
  run : Host → Run α
  confined : Confined true run

/-- A call of the host into the guest, for which there has to be fuel. -/
def Code.invoke {α : Type} (code : Code α) (host : Host) : Run α := do
  if (← get).fuel = some 0 then stop .outOfFuel else code.run host

end Guest

open Guest in
/-- A guest: what it asks for when it is started, and the code of its exports. -/
structure Guest where
  minPages : Nat
  /-- The pages that its memory may have, if it bounds them. -/
  pageBound : Option Nat
  /-- The functions of one argument that it needs from the host beyond the
  common ones. -/
  needs : List String
  /-- The bytes that its memory holds at the start, under their addresses. -/
  segments : List (Nat × List UInt8)
  heapStart : UInt32
  start : Option (Code Unit)
  /-- How many builtins can be under way, one inside of the other, before the
  stack is exhausted. -/
  nesting : Nat
  malloc : (count : UInt32) → Code UInt32
  jsonParse : (a count : UInt32) → Code UInt32
  jsonDump : (value : UInt32) → Code UInt32
  eval : (context : UInt32) → Code Int
  makeContext : Code UInt32
  setInput : (context value : UInt32) → Code Unit
  setData : (context value : UInt32) → Code Unit
  setEntrypoint : (context id : UInt32) → Code Unit
  getResult : (context : UInt32) → Code UInt32
  getHeap : Code UInt32
  setHeap : (a : UInt32) → Code Unit
  addPath : (data path value : UInt32) → Code Int
  removePath : (data path : UInt32) → Code Int
  builtins : Code UInt32
  entrypoints : Code UInt32
  /-- The exports that it does not have. -/
  absent : List Export
  /-- The exports that it has with another type. -/
  mistyped : List Export

end PolicyHost
