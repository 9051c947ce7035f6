import PolicyHost.Proofs.Guest.Answers
import PolicyHost.Proofs.Session.History

/-!
# Values cross unchanged

An entrypoint of the sample gives its input back as it stands in the guest's
memory. What comes out is the value that went in, whatever the session did
before: the text has no zero, its copy in the guest is ended by one, and reading
undoes writing. Two kinds of values do not cross, and they are the only ones:
strings that begin with an exclamation mark, which the guest's parser refuses,
and values that are nested deeper than the host's reader allows.
-/

namespace PolicyHost.Session

open Json Guest

/-- What becomes of a value that is brought into the sample, with the heap
pointer at a place, and brought out again. -/
def crossed (heap : UInt32) (v : Value) : Except Error Value :=
  if exclaims v then .error (.refusedText ⟨heap⟩ (encode v).length)
  else if v.depth ≤ 127 then .ok v
  else .error (.transfer (.malformed ⟨.ofNat (heap.toNat + (encode v).length)⟩))

theorem planned_raw {s : Session} {d v : Value} (hc : v.Canonical) (hi : v.IntegerOnly)
    (hlong : (encode v).length < 2 ^ 31) :
    (s.planned sample d (some ⟨1⟩) (encode v)).1 = crossed s.checkpoint v ∧
      (s.planned sample d (some ⟨1⟩) (encode v)).2 ≤ 2 * (encode v).length + 17 := by
  have hmost : (encode v).length ≤ longestText := Nat.le_of_lt_succ hlong
  rw [planned, chosen, crossed]
  by_cases hx : exclaims v = true
  · rw [Plan.evaluateText_refused hmost (refused_encode hi hx), if_pos hx, UInt32.ofNat_toNat]
    exact ⟨rfl, by simp only; omega⟩
  · have htaken := taken_encode hi (Bool.eq_false_iff.mpr hx)
    rw [if_neg hx]
    have hdecode : decode? (encode v) = if v.depth ≤ 127 then some v else none :=
      decode?_encode hc hi
    by_cases hd : v.depth ≤ 127
    · rw [if_pos hd] at hdecode
      rw [Plan.evaluateText_taken hmost htaken
        ((congrFun Plan.program_raw _).trans (Plan.dump_of_decode hdecode)), if_pos hd]
      exact ⟨rfl, Nat.le_refl _⟩
    · rw [if_neg hd] at hdecode
      rw [Plan.evaluateText_taken hmost htaken
        ((congrFun Plan.program_raw _).trans (Plan.dump_of_not_decode hdecode)), if_neg hd]
      exact ⟨rfl, Nat.le_refl _⟩

/-- After any history the entrypoint `raw` gives its input back unchanged, but
for strings that begin with an exclamation mark and for values that are nested
more than 127 levels deep, whose errors are these two; or it stops. Where fuel is
not metered, only a memory that has not `2 * n + 17` bytes behind the checkpoint,
for a text of `n` bytes, can stop it. -/
theorem raw_crosses {config : Config} {registry : Builtin.Registry} {s : Session}
    {lines : List String} (hvalid : config.validate = .ok ())
    (hlimit : config.memoryLimit.megabytes ≤ 1024)
    (h : launch (.described sample) config registry = (.ok s, lines)) (ops : List Operation)
    {target : Target} (htarget : target = .named "raw" ∨ target = .numbered ⟨1⟩) {v : Value}
    (hc : v.Canonical) (hi : v.IntegerOnly) (hlong : (encode v).length < 2 ^ 31) :
    Yields (s.after ops) (2 * (encode v).length + 17) (crossed (s.after ops).checkpoint v)
      ((s.after ops).outcome (.evaluate target (.json v))) := by
  obtain ⟨hserves, hsampled⟩ := launch_after hvalid hlimit h ops
  have hid : target.id? (s.after ops) = .ok (some ⟨1⟩) := by
    rcases htarget with rfl | rfl
    · exact hsampled.named rfl
    · rfl
  obtain ⟨hplanned, hneeded⟩ :=
    planned_raw hc hi hlong (s := s.after ops) (d := s.dataAfter (.object []) ops)
  exact evaluate_yields hserves hid hneeded fun _ => hplanned

theorem raw_crosses_nested : ∃ s lines,
    launch (.described sample) {} .empty = (.ok s, lines) ∧
      Yields (s.after [.addPath ["a"] (.json .null)]) 27 (.ok (.array [.string "!"]))
        ((s.after [.addPath ["a"] (.json .null)]).outcome
          (.evaluate (.named "raw") (.json (.array [.string "!"])))) := by
  obtain ⟨s, lines, h⟩ := launch_standard .empty
  have hlength : (encode (.array [.string "!"])).length = 5 := by
    rw [encode_eq]
    decide
  have hcrosses := raw_crosses validate_standard (by decide) h [.addPath ["a"] (.json .null)]
    (Or.inl rfl) (v := .array [.string "!"]) ⟨trivial, trivial⟩ ⟨trivial, trivial⟩
    (by rw [hlength]; decide)
  have hcrossed (heap : UInt32) : crossed heap (.array [.string "!"]) =
      .ok (.array [.string "!"]) := by
    rw [crossed, if_neg (by decide), if_pos (by decide)]
  rw [hlength, hcrossed] at hcrosses
  exact ⟨s, lines, h, hcrosses⟩

end PolicyHost.Session
