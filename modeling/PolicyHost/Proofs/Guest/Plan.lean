import PolicyHost.Guest.Described
import PolicyHost.Guest.Dispatch

/-!
# Plans of an evaluation

What a guest does to its memory can be told without a memory. A `Plan` is told
where the heap pointer stands, and says what comes out and how many bytes are
taken from the heap on the way; a value of the guest is a `Cell`, an address
together with the text that stands there. Plans never run out of room, never
read a byte that was not written for them, and depend on nothing but their
arguments.

The plans of this module are those of a guest with the constants that it refers
to by address: bringing a text in, bringing a value out, wrapping a result,
answering a call of a builtin, running a program, and the evaluation made of
all of these. That the guest does what they say is the matter of the modules
that follow.
-/

namespace PolicyHost.Guest

open Json Builtin

/-! ## Plans -/

/-- What comes out, and how many bytes of the heap are taken, when the heap
pointer stands at a place. -/
def Plan (α : Type) : Type :=
  Nat → Except Error α × Nat

namespace Plan

variable {α β : Type}

instance : Monad Plan where
  pure a := fun _ => (.ok a, 0)
  bind plan rest := fun heap =>
    match plan heap with
    | (.ok a, taken) => ((rest a (heap + taken)).1, taken + (rest a (heap + taken)).2)
    | (.error e, taken) => (.error e, taken)

/-- Ends with an error. -/
def fail (e : Error) : Plan α := fun _ => (.error e, 0)

/-- Takes so many bytes from the heap. -/
def take (count : Nat) : Plan UInt32 := fun heap => (.ok (.ofNat heap), count)

@[simp] theorem pure_apply (a : α) (heap : Nat) : (pure a : Plan α) heap = (.ok a, 0) := rfl

@[simp] theorem fail_apply (e : Error) (heap : Nat) : (fail e : Plan α) heap = (.error e, 0) := rfl

@[simp] theorem take_apply (count heap : Nat) : take count heap = (.ok (.ofNat heap), count) := rfl

theorem bind_of_ok {plan : Plan α} {rest : α → Plan β} {heap taken : Nat} {a : α}
    (h : plan heap = (.ok a, taken)) :
    (plan >>= rest) heap = ((rest a (heap + taken)).1, taken + (rest a (heap + taken)).2) := by
  change (match plan heap with
    | (.ok a, taken) => ((rest a (heap + taken)).1, taken + (rest a (heap + taken)).2)
    | (.error e, taken) => (.error e, taken)) = _
  rw [h]

theorem bind_of_error {plan : Plan α} {rest : α → Plan β} {heap taken : Nat} {e : Error}
    (h : plan heap = (.error e, taken)) : (plan >>= rest) heap = (.error e, taken) := by
  change (match plan heap with
    | (.ok a, taken) => ((rest a (heap + taken)).1, taken + (rest a (heap + taken)).2)
    | (.error e, taken) => (.error e, taken)) = _
  rw [h]

/-- What comes first takes its bytes in any case. -/
theorem le_bind {plan : Plan α} {rest : α → Plan β} {heap taken : Nat} {r : Except Error α}
    (h : plan heap = (r, taken)) : taken ≤ ((plan >>= rest) heap).2 := by
  cases r with
  | ok a =>
      rw [bind_of_ok h]
      exact Nat.le_add_right _ _
  | error e => exact Nat.le_of_eq (congrArg Prod.snd (bind_of_error h)).symm

/-- Plans one after the other make one plan, however they are grouped. -/
instance : LawfulMonad Plan :=
  .mk' Plan
    (fun plan => by
      funext heap
      change (plan >>= pure) heap = _
      rcases h : plan heap with ⟨a | e, taken⟩
      · rw [bind_of_error h]
      · rw [bind_of_ok h, pure_apply, Nat.add_zero])
    (fun a rest => by
      funext heap
      rw [bind_of_ok (pure_apply a heap), Nat.add_zero, Nat.zero_add])
    (fun plan rest last => by
      funext heap
      rcases h : plan heap with ⟨e | a, taken⟩
      · rw [bind_of_error h, bind_of_error (bind_of_error h)]
      · rcases h' : rest a (heap + taken) with ⟨e | b, taken'⟩
        · have hfirst : (plan >>= rest) heap = (.error e, taken + taken') := by
            rw [bind_of_ok h, h']
          rw [bind_of_error hfirst, bind_of_ok h, bind_of_error h']
        · have hfirst : (plan >>= rest) heap = (.ok b, taken + taken') := by
            rw [bind_of_ok h, h']
          rw [bind_of_ok hfirst, bind_of_ok h, bind_of_ok h']
          simp only [Nat.add_assoc])

end Plan

/-! ## Cells -/

/-- An address and the text that stands there, ended by a zero. -/
structure Cell where
  address : UInt32
  text : List UInt8

/-- Where a cell ends, behind its zero. -/
def Cell.stop (c : Cell) : Nat :=
  c.address.toNat + c.text.length + 1

/-- The cell that stands for no value. -/
def Cell.null : Cell := ⟨0, []⟩

/-- The constants of a guest: the null address, where a zero stands, and the
texts that it starts with. -/
def Description.constants (g : Description) : List Cell :=
  .null :: g.segments.map fun (a, bytes) => ⟨.ofNat a, bytes.dropLast⟩

/-- The constant at an address, and the null cell for any other address. -/
def Description.constant (g : Description) (a : UInt32) : Cell :=
  (g.constants.find? (·.address = a)).getD .null

namespace Plan

/-! ## Values in and out -/

/-- A copy of a text, in bytes taken for it. -/
def copyOf (bytes : List UInt8) : Plan Cell := do
  return ⟨← take (bytes.length + 1), bytes⟩

/-- Bringing a text in. -/
def loadText (g : Description) (bytes : List UInt8) : Plan Cell := do
  if longestText < bytes.length then fail (.transfer (.oversized bytes.length))
  else
    let a ← take bytes.length
    if (g.refusal? bytes).isSome then fail (.refusedText ⟨a⟩ bytes.length)
    else copyOf bytes

theorem loadText_oversized {g : Description} {bytes : List UInt8} (h : longestText < bytes.length)
    (heap : Nat) : loadText g bytes heap = (.error (.transfer (.oversized bytes.length)), 0) := by
  rw [loadText, if_pos h, fail_apply]

theorem loadText_refused {g : Description} {bytes : List UInt8} (hlong : bytes.length ≤ longestText)
    (h : (g.refusal? bytes).isSome = true) (heap : Nat) :
    loadText g bytes heap =
      (.error (.refusedText ⟨.ofNat heap⟩ bytes.length), bytes.length) := by
  rw [loadText, if_neg (Nat.not_lt_of_le hlong), bind_of_ok (take_apply _ _), if_pos h, fail_apply]
  rfl

/-- A text that is taken stands behind the bytes that it was written to. -/
theorem loadText_taken {g : Description} {bytes : List UInt8} (hlong : bytes.length ≤ longestText)
    (h : (g.refusal? bytes).isSome = false) (heap : Nat) :
    loadText g bytes heap =
      (.ok ⟨.ofNat (heap + bytes.length), bytes⟩, 2 * bytes.length + 1) := by
  have hcopy (at' : Nat) : copyOf bytes at' = (.ok ⟨.ofNat at', bytes⟩, bytes.length + 1) := by
    rw [copyOf, bind_of_ok (take_apply _ _)]
    rfl
  rw [loadText, if_neg (Nat.not_lt_of_le hlong), bind_of_ok (take_apply _ _), h,
    if_neg Bool.false_ne_true, hcopy, Nat.two_mul, Nat.add_assoc]

/-- A text stands where its length decides, or is not taken for what it is. -/
theorem loadText_cases (g : Description) (bytes : List UInt8) (heap : Nat) :
    loadText g bytes heap = (.ok ⟨.ofNat (heap + bytes.length), bytes⟩, 2 * bytes.length + 1) ∨
      ∃ e taken, loadText g bytes heap = (.error e, taken) ∧ e.taints = false := by
  by_cases hlong : longestText < bytes.length
  · exact Or.inr ⟨_, _, loadText_oversized hlong heap, rfl⟩
  by_cases hrefused : (g.refusal? bytes).isSome = true
  · exact Or.inr ⟨_, _, loadText_refused (Nat.le_of_not_lt hlong) hrefused heap, rfl⟩
  · exact Or.inl (loadText_taken (Nat.le_of_not_lt hlong) (by simpa using hrefused) heap)

/-- Bringing a value in. -/
def load (g : Description) (v : Value) : Plan Cell :=
  loadText g (encode v)

/-- Bringing a value out. -/
def dump (c : Cell) : Plan Value :=
  match decode? c.text with
  | some v => pure v
  | none => fail (.transfer (.malformed ⟨c.address⟩))

/-- Bringing several values out, one after the other. -/
def dumpAll : List Cell → Plan (List Value)
  | [] => pure []
  | c :: cells => do
      let v ← dump c
      let vs ← dumpAll cells
      return v :: vs

/-- The bytes of a result set with a text as the only result. -/
def wrapped (text : List UInt8) : List UInt8 :=
  openingText.toUTF8.toList ++ text ++ closingText.toUTF8.toList

/-- Making a result set. -/
def wrap (g : Description) (c : Cell) : Plan Cell :=
  if c.address = 0 then pure (g.constant g.texts.emptySet)
  else do
    let a ← take ((wrapped c.text).length + 1)
    return ⟨a, wrapped c.text⟩

/-! ## Builtins -/

/-- Bringing the answer of an entry in. -/
def answer (g : Description) (services : Services) (entry : Entry) : Answer → Plan Cell
  | .ok (some v) => load g v
  | .ok none => pure .null
  | .error failure =>
      match services.errorOf entry failure with
      | some e => fail e
      | none => pure .null

/-- Answering the call of a builtin. -/
def dispatch (g : Description) (services : Services) (id : UInt32) (operands : List Cell) :
    Plan Cell :=
  match services.table with
  | none => fail (.trap .earlyCall)
  | some table =>
      match table.get? ⟨id⟩ with
      | none => fail (.notImplemented ⟨id⟩ none)
      | some slot =>
          match slot.entry with
          | none => fail (.notImplemented ⟨id⟩ (some slot.name))
          | some entry => do
              let values ← dumpAll operands
              answer g services entry (entry.call values)

/-! ## Programs -/

/-- What a program can refer to, as cells. -/
structure View where
  input : Cell
  data : Cell

/-- The cell that an argument stands for. -/
def View.resolve (g : Description) (view : View) (register : Cell) : Argument → Cell
  | .input => view.input
  | .data => view.data
  | .register => register
  | .address a => g.constant a

/-- Running without end. -/
def spin (metered : Bool) : Plan Cell :=
  fail (.trap (if metered then .outOfFuel else .endless))

/-- Running a step. There is no plan for steps that reach the memory by
themselves. -/
def step (g : Description) (services : Services) (metered : Bool) (view : View) (register : Cell) :
    Step → Plan Cell
  | .input => pure view.input
  | .data => pure view.data
  | .address a => pure (g.constant a)
  | .wrap => wrap g register
  | .abort => fail (.aborted (String.ofList (Text.decodeLossy register.text)))
  | .print => pure register
  | .spin => spin metered
  | .builtin id arguments => dispatch g services id (arguments.map (view.resolve g register))
  | _ => fail (.trap .unreachable)

section Steps

variable {g : Description} {services : Services} {metered : Bool} {view : View} {register : Cell}

theorem step_input : step g services metered view register .input = pure view.input := rfl

theorem step_data : step g services metered view register .data = pure view.data := rfl

theorem step_wrap : step g services metered view register .wrap = wrap g register := rfl

theorem step_builtin (id : UInt32) (arguments : List Argument) :
    step g services metered view register (.builtin id arguments) =
      dispatch g services id (arguments.map (view.resolve g register)) := rfl

end Steps

/-- Running steps one after the other. -/
def steps (g : Description) (services : Services) (metered : Bool) (view : View) :
    (register : Cell) → List Step → Plan Cell
  | register, [] => pure register
  | register, next :: rest => do
      let register ← step g services metered view register next
      steps g services metered view register rest

/-- Running the program of an entrypoint and bringing its result out. -/
def program (g : Description) (services : Services) (metered : Bool) (view : View)
    (entrypoint : UInt32) : Plan Value := do
  dump (← steps g services metered view .null (g.program entrypoint))

/-- Evaluating with the text of an input. The context takes its room between
the input and whatever the program brings in. -/
def evaluateText (g : Description) (services : Services) (metered : Bool) (data : Cell)
    (entrypoint : UInt32) (bytes : List UInt8) : Plan Value := do
  let input ← loadText g bytes
  let _ ← take g.context.size.toNat
  program g services metered ⟨input, data⟩ entrypoint

end Plan

end PolicyHost.Guest
