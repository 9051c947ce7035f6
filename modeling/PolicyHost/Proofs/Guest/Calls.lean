import PolicyHost.Proofs.Guest.Answers
import PolicyHost.Proofs.Guest.Tables

/-!
# Calls of builtins

Four programs of the sample call a builtin with the data, the input and
constants, and wrap the answer. `determined` says what an evaluation owes to the
entry: the values of the operands go in, and the entry's answer comes out.
`program_call` shows that the plan of such a program comes to just that.
-/

namespace PolicyHost.Guest

open Json Builtin

/-! ## The calls of the sample -/

/-- The entrypoints of the sample that call a builtin with operands of the
host. -/
inductive Call where
  | concat
  | contains
  | replace
  | addDate

namespace Call

/-- The name of the entrypoint. -/
def name : Call → String
  | .concat => "concat"
  | .contains => "contains"
  | .replace => "replace"
  | .addDate => "add_date"

/-- The id of the entrypoint. -/
def entrypoint : Call → EntrypointId
  | .concat => ⟨2⟩
  | .contains => ⟨7⟩
  | .replace => ⟨9⟩
  | .addDate => ⟨10⟩

/-- The id of the builtin. -/
def builtin : Call → BuiltinId
  | .concat => ⟨0⟩
  | .contains => ⟨1⟩
  | .replace => ⟨4⟩
  | .addDate => ⟨5⟩

/-- The name of the builtin. -/
def builtinName : Call → String
  | .concat => "concat"
  | .contains => "contains"
  | .replace => "replace"
  | .addDate => "time.add_date"

/-- What the guest calls the builtin with. -/
def arguments : Call → List Argument
  | .concat | .contains => [.data, .input]
  | .replace => [.input, .data, .address 672]
  | .addDate => [.input, .address 680, .address 680, .address 688]

/-- The operands of the builtin, for data and an input. -/
def operands (d x : Value) : Call → List Value
  | .concat | .contains => [d, x]
  | .replace => [x, d, .string "_"]
  | .addDate => [x, .ofInt 0, .ofInt 0, .ofInt 1]

theorem program (call : Call) :
    sample.program call.entrypoint.value = [.builtin call.builtin.value call.arguments, .wrap] := by
  cases call <;> rfl

theorem nameOf?_builtin (call : Call) :
    nameOf? builtinIds call.builtin.value = some call.builtinName := by
  cases call <;> rfl

theorem get?_entrypointIds (call : Call) :
    entrypointIds.get? call.name = some call.entrypoint := by
  cases call <;> rfl

end Call

theorem decode?_constant {a : Nat} {v : Value} (h : Exact 127 v)
    (hm : (a, terminated v.toText) ∈ sample.segments) :
    decode? (sample.constant (.ofNat a)).text = some v := by
  rw [sample_constant hm]
  exact h.decode?

theorem Call.decode?_arguments (call : Call) {d x : Value} (hd : Exact 127 d) (hx : Exact 127 x)
    (a b : UInt32) (register : Cell) :
    (call.arguments.map
        (Plan.View.resolve sample ⟨⟨a, encode x⟩, ⟨b, encode d⟩⟩ register)).map
        (fun c => decode? c.text) = (call.operands d x).map some := by
  have hunderscore : decode? (sample.constant 672).text = some (.string "_") := by
    refine decode?_constant (a := 672) ⟨trivial, trivial, Nat.zero_le _⟩ ?_
    have htext : (Value.string "_").toText = "\"_\"" := by rw [Value.toText]; decide +kernel
    rw [htext]
    simp [sample]
  have hint (n : Int) : Exact 127 (.ofInt n) :=
    ⟨canonical_ofInt n, integerOnly_ofInt n, Nat.zero_le _⟩
  have hzero : decode? (sample.constant 680).text = some (.ofInt 0) := by
    refine decode?_constant (a := 680) (hint 0) ?_
    have htext : (Value.ofInt 0).toText = "0" := by rw [Value.toText]; decide +kernel
    rw [htext]
    simp [sample]
  have hone : decode? (sample.constant 688).text = some (.ofInt 1) := by
    refine decode?_constant (a := 688) (hint 1) ?_
    have htext : (Value.ofInt 1).toText = "1" := by rw [Value.toText]; decide +kernel
    rw [htext]
    simp [sample]
  cases call <;>
    simp only [arguments, operands, List.map_cons, List.map_nil, Plan.View.resolve, hd.decode?,
      hx.decode?, hunderscore, hzero, hone]

/-! ## What an entry determines -/

/-- What a call of an entry determines of an evaluation that wraps the answer:
the answer is the only result, and there is none where the entry has none. An
entry that rejects its operands has no answer, and fails the evaluation when the
host is strict; a wrong number of operands always does, and so does an entry that
takes the host down. -/
def determined (strict : Bool) (entry : Entry) (operands : List Value) : Except Error Value :=
  match entry.call operands with
  | .ok (some v) => .ok (resultSet v)
  | .ok none => .ok (.array [])
  | .error (.arity name expected actual) => .error (.builtinArity name expected actual)
  | .error (.crash name) => .error (.crashed (Failure.crash name).message)
  | .error failure =>
      if strict then .error (.builtinFailed entry.name failure.message) else .ok (.array [])

/-- What an entry determines by a failure is the error that the failure is for
the host, or the empty result set where it is none. -/
theorem determined_error (services : Services) {entry : Entry} {operands : List Value}
    {failure : Failure} (h : entry.call operands = .error failure) :
    determined services.strict entry operands =
      match services.errorOf entry failure with
      | some e => .error e
      | none => .ok (.array []) := by
  rw [determined, h]
  cases failure with
  | arity | crash => rfl
  | type | refused =>
      simp only [Services.errorOf]
      split <;> rfl

/-- The bytes that an answer needs: twice its text for bringing it in, and once
for wrapping it. -/
def needed : Answer → Nat
  | .ok (some v) => 3 * (encode v).length + 15
  | _ => 0

/-- A value that an entry may answer with, so that it comes back as it is. -/
structure Returnable (v : Value) : Prop where
  exact : Exact 125 v
  quiet : exclaims v = false
  short : (encode v).length < 2 ^ 31

namespace Plan

variable {services : Services} {metered : Bool} {heap : Nat}

theorem wrap_dump_null : (wrap sample .null >>= dump) heap = (.ok (.array []), 0) := by
  have htext : (Value.array []).toText = "[]" := by rw [Value.toText]; rfl
  have hempty : decode? (sample.constant sample.texts.emptySet).text = some (.array []) := by
    refine decode?_constant (a := 664) ⟨trivial, trivial, by decide⟩ ?_
    rw [htext]
    simp [sample]
  rw [bind_of_ok wrap_null, dump_of_decode hempty]
  rfl

/-- What an answer comes to: it is brought in, wrapped and brought out. -/
def answered (services : Services) (entry : Entry) (operands : List Value) : Plan Value :=
  answer sample services entry (entry.call operands) >>= fun c => wrap sample c >>= dump

/-- Without a value there is nothing to wrap. -/
theorem wrap_dump_none {plan : Plan Cell} (h : plan heap = (.ok .null, 0)) :
    (plan >>= fun c => wrap sample c >>= dump) heap = (.ok (.array []), 0) := by
  rw [bind_of_ok h, wrap_dump_null]
  rfl

theorem wrap_dump_load {v : Value} (hv : Returnable v) :
    ((load sample v >>= fun c => wrap sample c >>= dump) heap).2 ≤ 3 * (encode v).length + 15 ∧
      (heap + ((load sample v >>= fun c => wrap sample c >>= dump) heap).2 < 2 ^ 32 →
        ((load sample v >>= fun c => wrap sample c >>= dump) heap).1 = .ok (resultSet v)) := by
  obtain ⟨hexact, hquiet, hshort⟩ := hv
  have hload : load sample v heap = _ :=
    loadText_taken (Nat.le_of_lt_succ hshort) (taken_encode hexact.integers hquiet) heap
  have hpos : 0 < (encode v).length := List.length_pos_iff.mpr (encode_ne_nil v)
  rw [bind_of_ok hload]
  constructor
  · have hwrap : ((wrap sample ⟨.ofNat (heap + (encode v).length), encode v⟩ >>= dump)
        (heap + (2 * (encode v).length + 1))).2 ≤ (encode v).length + 14 := wrap_dump_le
    simp only
    omega
  · intro hfits
    -- The value is brought in below the bytes that are taken, so its address does not wrap around
    -- to the null address.
    have haddress : UInt32.ofNat (heap + (encode v).length) ≠ 0 := by
      intro hzero
      have hsame := congrArg UInt32.toNat hzero
      rw [UInt32.toNat_ofNat', Nat.mod_eq_of_lt (by omega), UInt32.toNat_zero] at hsame
      omega
    rw [wrap_dump hexact haddress]

/-- An answer takes no more bytes than it needs, and where no address wraps
around it comes to what the entry determines. -/
theorem answered_apply (services : Services) (heap : Nat) {entry : Entry} {operands : List Value}
    (hvalue : ∀ v, entry.call operands = .ok (some v) → Returnable v) :
    (answered services entry operands heap).2 ≤ needed (entry.call operands) ∧
      (heap + (answered services entry operands heap).2 < 2 ^ 32 →
        (answered services entry operands heap).1 =
          determined services.strict entry operands) := by
  rw [answered]
  match hcall : entry.call operands with
  | .ok (some v) =>
      rw [determined, hcall]
      exact wrap_dump_load (hvalue v hcall)
  | .ok none =>
      have hanswer : answer sample services entry (.ok none) heap = (.ok .null, 0) := rfl
      rw [wrap_dump_none hanswer, determined, hcall]
      exact ⟨Nat.le_refl _, fun _ => rfl⟩
  | .error failure =>
      rw [determined_error services hcall]
      cases herror : services.errorOf entry failure with
      | some e =>
          have hanswer : answer sample services entry (.error failure) heap = (.error e, 0) := by
            rw [answer, herror]
            rfl
          rw [bind_of_error hanswer]
          exact ⟨Nat.le_refl _, fun _ => rfl⟩
      | none =>
          have hanswer : answer sample services entry (.error failure) heap = (.ok .null, 0) := by
            rw [answer, herror]
            rfl
          rw [wrap_dump_none hanswer]
          exact ⟨Nat.le_refl _, fun _ => rfl⟩

/-- The program of a call answers with what the entry of its name has for the
operands. -/
theorem program_call (call : Call) {registry : Registry} {strict : Bool} {d x : Value}
    (hd : Exact 127 d) (hx : Exact 127 x) (a b : UInt32) {entry : Entry}
    (hentry : registry.get? call.builtinName = some entry) :
    program sample ⟨some (.ofIds registry builtinIds), strict⟩ metered
        ⟨⟨a, encode x⟩, ⟨b, encode d⟩⟩ call.entrypoint.value heap =
      answered ⟨some (.ofIds registry builtinIds), strict⟩ entry (call.operands d x) heap := by
  have hdumped : dumpAll _ heap = (.ok (call.operands d x), 0) :=
    dumpAll_apply (call.decode?_arguments hd hx a b .null)
  have hslot := get?_ofIds registry builtinIds call.builtin.value
  rw [call.nameOf?_builtin] at hslot
  rw [program_wrap call.program, step_builtin, dispatch]
  simp only [hslot, Option.map_some, hentry]
  rw [bind_assoc, bind_of_ok hdumped, Nat.add_zero, Nat.zero_add]
  rfl

end Plan

end PolicyHost.Guest
