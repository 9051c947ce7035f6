import PolicyHost.Proofs.Guest.Encoding
import PolicyHost.Proofs.Guest.Follows

/-!
# Orderly guests

The guests that follow their plans. An orderly guest asks for more memory when
its heap runs out, has no operation that only stops, refuses texts by their
beginning or not at all, keeps all parts of an evaluation context, and runs
programs that reach the memory only by way of values. `sample_orderly` says
that the sample is one.
-/

namespace PolicyHost.Guest

open Json

/-- Whether an address is that of a constant. -/
def Description.isConstant (g : Description) (a : UInt32) : Bool :=
  (g.constant a).address = a

/-- Whether an argument is a value that is there. -/
def Argument.plain (g : Description) : Argument → Bool
  | .address a => g.isConstant a
  | _ => true

/-- Whether a step has a plan. -/
def Step.plain (g : Description) : Step → Bool
  | .input | .data | .wrap | .abort | .print | .spin => true
  | .address a => g.isConstant a
  | .builtin _ arguments => arguments.all (·.plain g)
  | _ => false

/-- A guest that follows its plans. -/
structure Description.Orderly (g : Description) : Prop where
  grows : g.grows = true
  refusesFrom : g.refusesFrom = none
  parseLimit : g.parseLimit = none
  trapping : g.trapping = []
  /-- The parser refuses by answering so, and only texts that it has looked
  at as far as it looks. -/
  refusals : ∀ r ∈ g.refusals, r.2 = .reject ∧ g.peeks ≤ r.1.length
  /-- The parser takes the empty object. -/
  empty : (g.refusal? (encode (.object []))).isSome = false
  /-- The parser does not look further than the copy of a text will reach. -/
  peeks : g.peeks ≤ 3
  context : g.context = fullContext
  setEntrypoint : Export.setEntrypoint ∉ g.absent
  opening : g.constant g.texts.opening = ⟨g.texts.opening, openingText.toUTF8.toList⟩
  closing : g.constant g.texts.closing = ⟨g.texts.closing, closingText.toUTF8.toList⟩
  emptySet : g.isConstant g.texts.emptySet = true
  programs : ∀ steps ∈ g.programs, ∀ step ∈ steps, step.plain g = true

theorem Description.Orderly.not_trapping {g : Description} (h : g.Orderly) (e : Export) :
    e ∉ g.trapping := by
  rw [h.trapping]
  exact List.not_mem_nil

theorem constant_mem (g : Description) (a : UInt32) : g.constant a ∈ g.constants := by
  rw [Description.constant]
  cases h : g.constants.find? (·.address = a) with
  | none => exact List.mem_cons_self
  | some c => exact List.mem_of_find?_eq_some h

theorem constant_address {g : Description} {a : UInt32} (h : g.isConstant a = true) :
    (g.constant a).address = a := by
  simpa [Description.isConstant] using h

/-! ## Texts that are laid out -/

/-- Whether texts lie one behind the other between two addresses, each ended by
its only zero. -/
def laidOut (start stop : Nat) : List (Nat × List UInt8) → Bool
  | [] => start ≤ stop
  | (a, bytes) :: rest =>
      start ≤ a && bytes.getLast? == some 0 && !bytes.dropLast.contains 0 &&
        laidOut (a + bytes.length) stop rest

theorem laidOut_cons {start stop a : Nat} {bytes : List UInt8} {rest : List (Nat × List UInt8)} :
    laidOut start stop ((a, bytes) :: rest) = true ↔
      start ≤ a ∧ bytes.dropLast ++ [0] = bytes ∧ (0 : UInt8) ∉ bytes.dropLast ∧
        laidOut (a + bytes.length) stop rest = true := by
  have hlast : bytes.getLast? = some 0 ↔ bytes.dropLast ++ [0] = bytes := by
    constructor
    · intro h
      obtain ⟨front, rfl⟩ := List.getLast?_eq_some_iff.mp h
      rw [List.dropLast_concat]
    · intro h
      rw [← h, List.getLast?_concat]
  simp only [laidOut, Bool.and_eq_true, decide_eq_true_eq, beq_iff_eq, Bool.not_eq_true',
    List.contains_eq_mem, decide_eq_false_iff_not, and_assoc, hlast]

theorem laidOut_le {segments : List (Nat × List UInt8)} {start stop : Nat}
    (h : laidOut start stop segments = true) : start ≤ stop := by
  induction segments generalizing start with
  | nil => simpa [laidOut] using h
  | cons segment rest ih =>
      obtain ⟨ha, -, -, hrest⟩ := laidOut_cons.mp h
      have := ih hrest
      omega

theorem find?_of_laidOut {segments : List (Nat × List UInt8)} {start stop a : Nat}
    {bytes : List UInt8} (h : laidOut start stop segments = true) (hstop : stop ≤ 2 ^ 32)
    (hm : (a, bytes) ∈ segments) :
    start ≤ a ∧ a < stop ∧
      (segments.map fun (a, bytes) => Cell.mk (.ofNat a) bytes.dropLast).find?
        (·.address = .ofNat a) = some ⟨.ofNat a, bytes.dropLast⟩ := by
  induction segments generalizing start with
  | nil => exact absurd hm List.not_mem_nil
  | cons segment rest ih =>
      obtain ⟨b, text⟩ := segment
      obtain ⟨hb, htext, -, hrest⟩ := laidOut_cons.mp h
      have hlength := congrArg List.length htext
      rw [List.length_append, List.length_singleton] at hlength
      have hbelow := laidOut_le hrest
      rcases List.mem_cons.mp hm with heq | hm
      · cases heq
        refine ⟨hb, by omega, ?_⟩
        rw [List.map_cons, List.find?_cons_of_pos (by simp)]
      · obtain ⟨ha, hlt, hfind⟩ := ih hrest hm
        refine ⟨by omega, hlt, ?_⟩
        have hne : UInt32.ofNat b ≠ .ofNat a := by
          intro heq
          have hsame := congrArg UInt32.toNat heq
          rw [UInt32.toNat_ofNat', UInt32.toNat_ofNat', Nat.mod_eq_of_lt (by omega),
            Nat.mod_eq_of_lt (by omega)] at hsame
          omega
        rw [List.map_cons, List.find?_cons_of_neg (by simpa using hne)]
        exact hfind

/-- The constants of a guest whose texts are laid out behind the null address
are these texts. -/
theorem constant_of_laidOut {g : Description} {start stop a : Nat} {bytes : List UInt8}
    (h : laidOut start stop g.segments = true) (hstart : 0 < start) (hstop : stop ≤ 2 ^ 32)
    (hm : (a, bytes) ∈ g.segments) : g.constant (.ofNat a) = ⟨.ofNat a, bytes.dropLast⟩ := by
  obtain ⟨ha, hlt, hfind⟩ := find?_of_laidOut h hstop hm
  have hne : Cell.null.address ≠ UInt32.ofNat a := by
    intro heq
    have hsame := congrArg UInt32.toNat heq
    rw [UInt32.toNat_ofNat', Nat.mod_eq_of_lt (by omega)] at hsame
    simp [Cell.null] at hsame
    omega
  rw [Description.constant, Description.constants, List.find?_cons_of_neg (by simpa using hne),
    hfind]
  rfl

/-! ## The sample -/

theorem sample_laidOut : laidOut 1 1024 sample.segments = true := by
  simp only [sample, terminated, byteArray_toList]
  decide +kernel

theorem dropLast_terminated (text : String) :
    (terminated text).dropLast = text.toUTF8.toList := by
  rw [terminated, List.dropLast_concat]

theorem sample_text {a : Nat} {text : String} (hm : (a, terminated text) ∈ sample.segments) :
    sample.constant (.ofNat a) = ⟨.ofNat a, text.toUTF8.toList⟩ := by
  rw [constant_of_laidOut sample_laidOut (by decide) (by decide) hm, dropLast_terminated]

theorem sample_constant {a : Nat} {v : Value}
    (hm : (a, terminated v.toText) ∈ sample.segments) :
    sample.constant (.ofNat a) = ⟨.ofNat a, encode v⟩ :=
  sample_text hm

theorem sample_orderly : sample.Orderly where
  grows := rfl
  refusesFrom := rfl
  parseLimit := rfl
  trapping := rfl
  refusals := by decide +kernel
  empty := taken_encode (v := .object []) trivial rfl
  peeks := by decide
  context := rfl
  setEntrypoint := List.not_mem_nil
  opening := sample_text (a := 640) (by simp [sample])
  closing := sample_text (a := 656) (by simp [sample])
  emptySet := by decide
  programs := by decide

end PolicyHost.Guest
