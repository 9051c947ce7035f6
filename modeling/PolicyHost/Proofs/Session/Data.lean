import PolicyHost.Proofs.Guest.Answers
import PolicyHost.Proofs.Session.History

/-!
# The data of a session

What the sample gives back as its data is at all times what the operations
before made of it: the value that was set last, and the empty object where none
was set or the guest did not take it. Evaluations and path updates do not show,
however they ended.
-/

namespace PolicyHost.Session

open Json Guest

/-- An operation that sets values of a kind only. -/
def Operation.Sets (kind : Value → Prop) : Operation → Prop
  | .setData (.json v) => kind v
  | _ => True

/-- Data stays of a kind that the empty object is of, when only values of that
kind are set. -/
theorem dataAfter_kind {kind : Value → Prop} (hempty : kind (.object [])) {s : Session} {v : Value}
    (hv : kind v) {ops : List Operation} (hops : ∀ op ∈ ops, op.Sets kind) :
    kind (s.dataAfter v ops) := by
  induction ops generalizing s v with
  | nil => exact hv
  | cons op ops ih =>
      refine ih ?_ fun op hop => hops op (List.mem_cons_of_mem _ hop)
      have hop : op.Sets kind := hops op List.mem_cons_self
      match op, s.outcome op with
      | .setData (.json w), .ok _ => exact hop
      | .setData (.json w), .error _ => exact hempty
      | .setData .unencodable, _ | .evaluate _ _, _ | .decide _, _ | .addPath _ _, _
      | .removePath _, _ => exact hv

theorem encode_null : encode .null = [110, 117, 108, 108] := by
  rw [encode_eq]
  decide

theorem planned_data {s : Session} {d : Value} (hserves : Serves sample s d) (hd : Exact 125 d) :
    s.planned sample d (some ⟨6⟩) (encode .null) = (.ok (resultSet d), (encode d).length + 39) := by
  have htaken := taken_encode (v := .null) trivial rfl
  have hshort : (encode .null).length = 4 := by
    rw [encode_null]
    rfl
  rw [planned, chosen, Plan.evaluateText_taken (by rw [hshort]; decide) htaken
    ((congrFun Plan.program_data _).trans (Plan.wrap_dump hd hserves.data_ne_zero)), hshort]
  exact congrArg (_, ·) (by omega)

/-- After any history that sets exact values, the entrypoint `data` gives the
data as the only result, or stops. Where fuel is not metered, only a memory that
has not `n + 39` bytes behind the checkpoint, for data with a text of `n` bytes,
can stop it. -/
theorem data_yields_data {config : Config} {registry : Builtin.Registry} {s : Session}
    {lines : List String} (hvalid : config.validate = .ok ())
    (hlimit : config.memoryLimit.megabytes ≤ 1024)
    (h : launch (.described sample) config registry = (.ok s, lines)) {ops : List Operation}
    (hops : ∀ op ∈ ops, op.Sets (Exact 125)) :
    Yields (s.after ops) ((encode (s.dataAfter (.object []) ops)).length + 39)
      (.ok (resultSet (s.dataAfter (.object []) ops)))
      ((s.after ops).outcome (.evaluate (.named "data") (.json .null))) := by
  obtain ⟨hserves, hsampled⟩ := launch_after hvalid hlimit h ops
  have hexact : Exact 125 (s.dataAfter (.object []) ops) :=
    dataAfter_kind (exact_empty.mono (by decide)) (exact_empty.mono (by decide)) hops
  have hid : (Target.named "data").id? (s.after ops) = .ok (some ⟨6⟩) := hsampled.named rfl
  have hplanned := planned_data hserves hexact
  exact evaluate_yields hserves hid (Nat.le_of_eq (congrArg Prod.snd hplanned))
    fun _ => congrArg Prod.fst hplanned

/-- A history that sets the data and then fails. -/
def setAndAbort : List Operation :=
  [.setData (.json (.ofInt 1)), .evaluate (.named "abort") (.json .null)]

theorem data_yields_data_setAndAbort : ∃ s lines,
    launch (.described sample) {} .empty = (.ok s, lines) ∧
      Yields (s.after setAndAbort) ((encode (s.dataAfter (.object []) setAndAbort)).length + 39)
        (.ok (resultSet (s.dataAfter (.object []) setAndAbort)))
        ((s.after setAndAbort).outcome (.evaluate (.named "data") (.json .null))) := by
  obtain ⟨s, lines, h⟩ := launch_standard .empty
  refine ⟨s, lines, h, data_yields_data validate_standard (by decide) h ?_⟩
  intro op hop
  rcases List.mem_cons.mp hop with rfl | hop
  · exact ⟨canonical_ofInt 1, integerOnly_ofInt 1, by decide⟩
  · cases List.mem_singleton.mp hop
    trivial

end PolicyHost.Session
