import PolicyHost.Proofs.Guest.Orderly

/-!
# What the plans of the sample come to

The plans of the sample's programs are computed here, given what stands in the
cells that they work on: a value that is wrapped comes out as the only result of
a result set, the null cell as an empty one, and a call of a builtin as what the
entry answers to the values of its operands. The heap pointer enters only so far
as an address that is taken from it must not be the null address, which is why
some statements ask for the planned bytes to stay below `2 ^ 32`.
-/

namespace PolicyHost.Guest

open Json Builtin

/-! ## Result sets -/

/-- The result set with one result. -/
def resultSet (v : Value) : Value :=
  .array [.object [("result", v)]]

/-- The text of a result set is the text of its result between two fixed ones. -/
theorem wrapped_encode (v : Value) : Plan.wrapped (encode v) = encode (resultSet v) := by
  have hopening : openingText.toUTF8.toList = bytesOf "[\x7b\"result\":".toList := by
    rw [← toUTF8_toList, String.ofList_toList, openingText]
  have hclosing : closingText.toUTF8.toList = bytesOf "\x7d]".toList := by
    rw [← toUTF8_toList, String.ofList_toList, closingText]
  have hrender : (resultSet v).render =
      "[\x7b\"result\":".toList ++ v.render ++ "\x7d]".toList := by
    simp [resultSet, Value.render, Value.renderItems, Value.renderMembers, quote]
    rfl
  rw [Plan.wrapped, hopening, hclosing, encode_eq, encode_eq, ← bytesOf_append, ← bytesOf_append,
    hrender]

theorem length_wrapped (text : List UInt8) : (Plan.wrapped text).length = text.length + 13 := by
  have hopening : openingText.toUTF8.toList.length = 11 := by rw [← utf8ByteSize_eq]; rfl
  have hclosing : closingText.toUTF8.toList.length = 2 := by rw [← utf8ByteSize_eq]; rfl
  rw [Plan.wrapped, List.length_append, List.length_append, hopening, hclosing]
  omega

/-- A result set is nested two levels deeper than its result. -/
theorem exact_resultSet {n : Nat} {v : Value} (h : Exact n v) : Exact (n + 2) (resultSet v) where
  canonical := ⟨⟨trivial, h.canonical, trivial⟩, trivial⟩
  integers := ⟨⟨h.integers, trivial⟩, trivial⟩
  depth := by
    have hdepth : (resultSet v).depth = v.depth + 2 := by
      simp [resultSet, Value.depth, Value.listDepth, Value.membersDepth]
    rw [hdepth]
    exact Nat.add_le_add_right h.depth 2

theorem decode?_wrapped {v : Value} (h : Exact 125 v) :
    decode? (Plan.wrapped (encode v)) = some (resultSet v) := by
  rw [wrapped_encode]
  exact (exact_resultSet h).decode?

/-! ## Single steps -/

namespace Plan

variable {g : Description} {services : Services} {metered : Bool} {view : View}
  {data c register : Cell} {heap taken : Nat} {v : Value}

/-- Wrapping takes the bytes of a result set, for every value but the null
cell. -/
theorem wrap_apply (h : c.address ≠ 0) :
    wrap g c heap = (.ok ⟨.ofNat heap, wrapped c.text⟩, c.text.length + 14) := by
  rw [wrap, if_neg h, bind_of_ok (take_apply _ _), length_wrapped]
  rfl

theorem wrap_null : wrap g .null heap = (.ok (g.constant g.texts.emptySet), 0) := by
  rw [wrap, if_pos (show Cell.null.address = 0 from rfl)]
  rfl

theorem dump_apply : (dump c heap).2 = 0 := by
  rw [dump]
  cases decode? c.text <;> rfl

theorem dump_of_decode (h : decode? c.text = some v) : dump c heap = (.ok v, 0) := by
  rw [dump, h]
  rfl

theorem dump_of_not_decode (h : decode? c.text = none) :
    dump c heap = (.error (.transfer (.malformed ⟨c.address⟩)), 0) := by
  rw [dump, h]
  rfl

/-- A value that is wrapped last comes out as the only result. -/
theorem wrap_dump (h : Exact 125 v) {a : UInt32} (ha : a ≠ 0) :
    (wrap g ⟨a, encode v⟩ >>= dump) heap = (.ok (resultSet v), (encode v).length + 14) := by
  have hwrap : wrap g ⟨a, encode v⟩ heap = _ := wrap_apply ha
  rw [bind_of_ok hwrap, dump_of_decode (decode?_wrapped h)]
  rfl

theorem wrap_dump_le : ((wrap g c >>= dump) heap).2 ≤ c.text.length + 14 := by
  by_cases h : c.address = 0
  · have hwrap : wrap g c heap = (.ok (g.constant g.texts.emptySet), 0) := by
      rw [wrap, if_pos h]
      rfl
    rw [bind_of_ok hwrap]
    simp only [dump_apply]
    omega
  · rw [bind_of_ok (wrap_apply h)]
    simp only [dump_apply]
    exact Nat.le_refl _

theorem dumpAll_apply {cells : List Cell} {values : List Value}
    (h : cells.map (fun c => decode? c.text) = values.map some) :
    dumpAll cells heap = (.ok values, 0) := by
  induction cells generalizing values with
  | nil =>
      cases values with
      | nil => rfl
      | cons v values => cases h
  | cons c cells ih =>
      cases values with
      | nil => cases h
      | cons v values =>
          obtain ⟨hv, hvalues⟩ := List.cons.inj h
          rw [dumpAll, bind_of_ok (dump_of_decode hv), Nat.add_zero, bind_of_ok (ih hvalues)]
          rfl

theorem program_wrap {first : Step} {e : UInt32} (h : g.program e = [first, .wrap]) :
    program g services metered view e =
      step g services metered view .null first >>= fun c => wrap g c >>= dump := by
  rw [program, h, steps]
  simp only [steps, step_wrap, bind_pure, bind_assoc]

/-! ## Evaluations of the sample -/

/-- Evaluating with a text that the parser takes: the program runs behind the
text, its copy and the context. -/
theorem evaluateText_taken {bytes : List UInt8} {e : UInt32} {r : Except Error Value}
    (hlong : bytes.length ≤ longestText) (htaken : (sample.refusal? bytes).isSome = false)
    (h : program sample services metered ⟨⟨.ofNat (heap + bytes.length), bytes⟩, data⟩ e
      (heap + (2 * bytes.length + 17)) = (r, taken)) :
    evaluateText sample services metered data e bytes heap =
      (r, 2 * bytes.length + 17 + taken) := by
  have hsize : sample.context.size.toNat = 16 := rfl
  have hplace : heap + (2 * bytes.length + 1) + 16 = heap + (2 * bytes.length + 17) := by omega
  rw [evaluateText, bind_of_ok (loadText_taken hlong htaken heap), bind_of_ok (take_apply _ _),
    hsize, hplace, h]
  exact congrArg (r, ·) (by simp only; omega)

theorem evaluateText_refused {bytes : List UInt8} {e : UInt32}
    (hlong : bytes.length ≤ longestText) (hrefused : (sample.refusal? bytes).isSome = true) :
    evaluateText sample services metered data e bytes heap =
      (.error (.refusedText ⟨.ofNat heap⟩ bytes.length), bytes.length) := by
  rw [evaluateText, bind_of_error (loadText_refused hlong hrefused heap)]

/-! ## Programs of the sample -/

theorem program_raw : program sample services metered view 1 = dump view.input := by
  have h : sample.program 1 = [.input] := rfl
  rw [program, h, steps]
  simp only [steps, step_input, pure_bind]

theorem program_data :
    program sample services metered view 6 = wrap sample view.data >>= dump := by
  rw [program_wrap (show sample.program 6 = [.data, .wrap] from rfl)]
  simp only [step_data, pure_bind]

end Plan

end PolicyHost.Guest
