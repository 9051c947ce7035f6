import PolicyHost.Proofs.Guest.Calls
import PolicyHost.Proofs.Session.History

/-!
# Builtins answer as if called directly

An entrypoint that calls a builtin takes the long way: the operands are read
from the guest's memory, the entry's answer is brought into it while the guest
is in the midst of the evaluation, wrapped there and read again. What comes out
is what calling the entry on the values determines, and nothing else.
-/

namespace PolicyHost.Session

open Json Guest Builtin

/-- What is planned of a call: no more bytes are taken than the input and the
answer need, and where no address wraps around the outcome is determined. -/
theorem planned_call {config : Config} {registry : Registry} {s : Session} (call : Call)
    {entry : Entry} {d x : Value} (hs : Sampled config registry s)
    (hentry : registry.get? call.builtinName = some entry) (hd : Exact 127 d) (hx : Exact 127 x)
    (hquiet : exclaims x = false) (hshort : (encode x).length < 2 ^ 31)
    (hvalue : ∀ v, entry.call (call.operands d x) = .ok (some v) → Returnable v) :
    (s.planned sample d (some call.entrypoint) (encode x)).2 ≤
        2 * (encode x).length + 17 + needed (entry.call (call.operands d x)) ∧
      (s.checkpoint.toNat + (s.planned sample d (some call.entrypoint) (encode x)).2 < 2 ^ 32 →
        (s.planned sample d (some call.entrypoint) (encode x)).1 =
          determined config.strict entry (call.operands d x)) := by
  rcases hanswered : Plan.answered ⟨some (.ofIds registry builtinIds), config.strict⟩ entry
      (call.operands d x) (s.checkpoint.toNat + (2 * (encode x).length + 17)) with ⟨r, taken⟩
  have hdetermined := Plan.answered_apply ⟨some (.ofIds registry builtinIds), config.strict⟩
    (s.checkpoint.toNat + (2 * (encode x).length + 17)) hvalue
  rw [hanswered, Nat.add_assoc] at hdetermined
  rw [planned, chosen, hs.services,
    Plan.evaluateText_taken (Nat.le_of_lt_succ hshort) (taken_encode hx.integers hquiet)
      ((Plan.program_call call hd hx _ _ hentry).trans hanswered)]
  exact ⟨Nat.add_le_add_left hdetermined.1 _, hdetermined.2⟩

/-- After any history, an entrypoint that calls a builtin gives what the entry
of the registry determines for the data and the input, or stops. Where fuel is
not metered, only a memory that has not room behind the checkpoint for the input
and the answer can stop it. -/
theorem call_answers {config : Config} {registry : Registry} {s : Session} {lines : List String}
    (hvalid : config.validate = .ok ()) (hlimit : config.memoryLimit.megabytes ≤ 1024)
    (h : launch (.described sample) config registry = (.ok s, lines)) (ops : List Operation)
    (call : Call) {target : Target}
    (htarget : target = .named call.name ∨ target = .numbered call.entrypoint)
    {entry : Entry} (hentry : registry.get? call.builtinName = some entry) {d x : Value}
    (hdata : s.dataAfter (.object []) ops = d) (hd : Exact 127 d) (hx : Exact 127 x)
    (hquiet : exclaims x = false) (hshort : (encode x).length < 2 ^ 31)
    (hvalue : ∀ v, entry.call (call.operands d x) = .ok (some v) → Returnable v) :
    Yields (s.after ops) (2 * (encode x).length + 17 + needed (entry.call (call.operands d x)))
      (determined config.strict entry (call.operands d x))
      ((s.after ops).outcome (.evaluate target (.json x))) := by
  obtain ⟨hserves, hsampled⟩ := launch_after hvalid hlimit h ops
  rw [hdata] at hserves
  have hid : target.id? (s.after ops) = .ok (some call.entrypoint) := by
    rcases htarget with rfl | rfl
    · exact hsampled.named call.get?_entrypointIds
    · rfl
  obtain ⟨hneeded, hdetermined⟩ := planned_call call hsampled hentry hd hx hquiet hshort hvalue
  exact evaluate_yields hserves hid hneeded hdetermined

/-- An entry that answers with its second operand. -/
def second : Entry :=
  ⟨"concat", 2, fun operands => .ok operands[1]?⟩

theorem call_answers_second : ∃ s lines,
    launch (.described sample) {} (.insert .empty second) = (.ok s, lines) ∧
      Yields s 52 (.ok (resultSet (.bool true)))
        (s.outcome (.evaluate (.named "concat") (.json (.bool true)))) := by
  obtain ⟨s, lines, h⟩ := launch_standard (.insert .empty second)
  have hlength : (encode (.bool true)).length = 4 := by
    rw [encode_eq]
    decide
  have hexact {n : Nat} : Exact n (.bool true) := ⟨trivial, trivial, Nat.zero_le _⟩
  have hanswer : second.call (Call.concat.operands (.object []) (.bool true)) =
      .ok (some (.bool true)) := rfl
  have hdata : s.dataAfter (.object []) [] = .object [] := rfl
  have hanswers := call_answers validate_standard (by decide) h [] .concat (Or.inl rfl) rfl hdata
    (exact_empty.mono (by decide)) hexact rfl (by rw [hlength]; decide) fun v hv => by
      rw [hanswer] at hv
      cases hv
      exact ⟨hexact, rfl, by rw [hlength]; decide⟩
  rw [determined, hanswer, needed, hlength] at hanswers
  exact ⟨s, lines, h, hanswers⟩

end PolicyHost.Session
