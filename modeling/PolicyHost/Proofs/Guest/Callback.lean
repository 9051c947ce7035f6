import PolicyHost.Guest.Described
import PolicyHost.Guest.Dispatch
import PolicyHost.Proofs.Guest.Follows

/-!
# How a call of a builtin goes on

A call asks for the table, for the slot of the id and for the entry of the slot,
and with any of them missing it ends there, before an operand is read. With an
entry it brings the operands out, calls it and settles its answer: a value is
brought in, a failure is an error of the host or no value.
-/

namespace PolicyHost.Guest

open Json Builtin

variable {g : Guest} {services : Services} {host : Host} {table : BuiltinTable} {id : UInt32}
  {operands : List UInt32} {slot : Slot} {entry : Entry} {s : Store}

/-- What becomes of the answer of an entry. -/
def settle (g : Guest) (services : Services) (host : Host) (entry : Entry) :
    Answer → Run UInt32
  | .ok (some v) => load g host v
  | .ok none => pure 0
  | .error failure =>
      match services.errorOf entry failure with
      | some e => throw e
      | none => pure 0

/-- A failure is the host's error, or there is no value. -/
theorem settle_failure (failure : Failure) :
    (settle g services host entry (.error failure)).run s =
      (match services.errorOf entry failure with
        | some e => .error e
        | none => .ok 0, s) := by
  rw [settle]
  cases services.errorOf entry failure <;> rfl

/-! ## The steps of a call -/

theorem answer_early (h : services.table = none) :
    answer g services host id operands = stop .earlyCall := by
  simp only [answer, h]

theorem answer_without_slot (ht : services.table = some table) (h : table.get? ⟨id⟩ = none) :
    answer g services host id operands = throw (.notImplemented ⟨id⟩ none) := by
  simp only [answer, ht, h]

theorem answer_without_entry (ht : services.table = some table)
    (hslot : table.get? ⟨id⟩ = some slot) (h : slot.entry = none) :
    answer g services host id operands = throw (.notImplemented ⟨id⟩ (some slot.name)) := by
  simp only [answer, ht, hslot, h]

theorem answer_entry (ht : services.table = some table) (hslot : table.get? ⟨id⟩ = some slot)
    (h : slot.entry = some entry) :
    answer g services host id operands = (do
      let values ← operands.mapM (dump g host)
      settle g services host entry (entry.call values)) := by
  simp only [answer, ht, hslot, h]
  rfl

/-- What a call finds for its id decides how it goes on. -/
theorem answer_cases (g : Guest) (services : Services) (host : Host) (id : UInt32)
    (operands : List UInt32) :
    (services.table = none ∧ answer g services host id operands = stop .earlyCall) ∨
    (∃ table, services.table = some table ∧ table.get? ⟨id⟩ = none ∧
      answer g services host id operands = throw (.notImplemented ⟨id⟩ none)) ∨
    (∃ table slot, services.table = some table ∧ table.get? ⟨id⟩ = some slot ∧
      slot.entry = none ∧
      answer g services host id operands = throw (.notImplemented ⟨id⟩ (some slot.name))) ∨
    (∃ table slot entry, services.table = some table ∧ table.get? ⟨id⟩ = some slot ∧
      slot.entry = some entry ∧
      answer g services host id operands = (do
        let values ← operands.mapM (dump g host)
        settle g services host entry (entry.call values))) := by
  cases ht : services.table with
  | none => exact Or.inl ⟨rfl, answer_early ht⟩
  | some table =>
      refine Or.inr ?_
      cases hslot : table.get? ⟨id⟩ with
      | none => exact Or.inl ⟨table, rfl, hslot, answer_without_slot ht hslot⟩
      | some slot =>
          refine Or.inr ?_
          cases h : slot.entry with
          | none => exact Or.inl ⟨table, slot, rfl, hslot, h, answer_without_entry ht hslot h⟩
          | some entry =>
              exact Or.inr ⟨table, slot, entry, rfl, hslot, h, answer_entry ht hslot h⟩

/-- A guest that is described makes no calls inside of a call, so it is all the same
who would answer them. -/
theorem answer_host (g : Description) (services : Services) (host host' : Host) :
    answer (.described g) services host = answer (.described g) services host' := by
  have hdump : dump (.described g) host = dump (.described g) host' := rfl
  have hload : load (.described g) host = load (.described g) host' := rfl
  funext id operands
  simp only [answer, hdump, hload]

end PolicyHost.Guest
