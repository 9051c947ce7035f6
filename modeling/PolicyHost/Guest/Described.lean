import PolicyHost.Guest.Evaluation

/-!
# The guests of descriptions

`Guest.described` is the guest that a description describes: the code of its
exports does what `Operation` and `Evaluation` say, or only stops where the
description has it so. Running without end is all that takes fuel. `fickle` is a
guest that none describes: its parser calls a builtin.
-/

namespace PolicyHost.Guest

namespace Confined

variable {α β : Type} {burns : Bool} {work other : Host → Run α}

theorem ite {p : Prop} [Decidable p] (h : Confined burns work) (h' : Confined burns other) :
    Confined burns fun host => if p then work host else other host := by
  split
  · exact h
  · exact h'

theorem map {f : α → β} (h : Confined burns work) : Confined burns fun host => f <$> work host := by
  simp only [← bind_pure_comp]
  exact h.bind fun a => .pure (f a)

theorem forM {κ : Type} {f : κ → Host → Run PUnit} (h : ∀ k, Confined burns (f k))
    (ks : List κ) : Confined burns fun host => ks.forM fun k => f k host := by
  induction ks with
  | nil => exact .pure ()
  | cons k ks ih => exact (h k).bind fun _ => ih

end Confined

variable {burns : Bool}

theorem allocate_confined (g : Description) (count : UInt32) :
    Confined burns fun _ => allocate g count := by
  simp only [allocate]
  refine .ite (.pure _) (.bind .look fun s => .bind (.heap _) fun _ => ?_)
  refine .ite (.bind .look fun t => ?_) (.pure _)
  exact .ite (.bind (.grow _) fun answer => .ite (.bind (.stop _) fun _ => .pure _) (.pure _))
    (.pure _)

theorem readWord_confined (a : Nat) : Confined burns fun _ => readWord a := by
  simp only [readWord]
  exact .bind .look fun s => .ite (.bind .look fun t => .pure _) (.stop _)

theorem readText_confined (a : UInt32) : Confined burns fun _ => readText a := by
  simp only [readText]
  refine .bind .look fun s => ?_
  cases s.memory.text? a.toNat with
  | some bytes => exact .pure bytes
  | none => exact .stop _

theorem copy_confined (target source count : Nat) :
    Confined burns fun _ => copy target source count := by
  simp only [copy]
  exact .bind .look fun s => .ite (.bind .look fun t => .write _ _) (.stop _)

theorem parse_confined (g : Description) (a count : UInt32) :
    Confined burns fun _ => parse g a count := by
  have hcopy : Confined burns fun _ => (do
      let value ← allocate g (count + 1)
      copy value.toNat a.toNat count.toNat
      writeBytes (value.toNat + count.toNat) [0]
      return value) :=
    .bind (allocate_confined g _) fun value => .bind (copy_confined _ _ _) fun _ =>
      .bind (.write _ _) fun _ => .pure _
  simp only [parse]
  refine .bind (.globals _) fun _ => .bind .look fun s => .ite (.pure _) (.bind .look fun t => ?_)
  refine .ite (.bind .look fun u => ?_) (.bind (.stop _) fun _ => .bind .look fun u => ?_) <;>
  · split
    · exact .pure _
    · exact .stop _
    · exact .abort _
    · exact hcopy

theorem fillPart_confined (context : UInt32) (place : Option Nat) (w : UInt32) :
    Confined burns fun _ => fillPart context place w := by
  cases place with
  | some place => exact .write _ _
  | none => exact .pure ()

theorem newContext_confined (g : Description) : Confined burns fun _ => newContext g :=
  .bind (allocate_confined g _) fun context =>
    .bind (.forM (fun place => fillPart_confined context place 0) _) fun _ => .pure _

theorem readPart_confined (context : UInt32) (place : Option Nat) :
    Confined burns fun _ => readPart context place := by
  cases place with
  | some place => exact readWord_confined _
  | none => exact .pure 0

theorem wrap_confined (g : Description) (value : UInt32) :
    Confined burns fun _ => wrap g value := by
  simp only [wrap]
  refine .ite (.pure _) (.bind (readText_confined value) fun text => ?_)
  refine .bind (allocate_confined g _) fun set => .bind (copy_confined _ _ _) fun _ => ?_
  refine .bind (copy_confined _ _ _) fun _ => .bind (copy_confined _ _ _) fun _ => ?_
  exact .bind (.write _ _) fun _ => .pure _

theorem updatePath_confined (update : PathUpdate) (arguments : List UInt32) :
    Confined burns fun _ => updatePath update arguments := by
  simp only [updatePath]
  exact .ite (.bind (.forM (fun a => .print a) _) fun _ => .pure _) (.pure _)

theorem spin_confined {α : Type} : Confined true fun _ => (spin : Run α) :=
  .bind (.burn rfl _) fun _ => .stop _

theorem runStep_confined (g : Description) (scope : Scope) (register : UInt32) (step : Step) :
    Confined true fun host => runStep g host scope register step := by
  cases step with
  | input | data | address | finish => exact .pure _
  | wrap => exact .map (wrap_confined g register)
  | allocate count => exact .map (allocate_confined g count)
  | grow pages => exact .bind (.grow _) fun _ => .pure _
  | abort => exact .abort _
  | print => exact .bind (.print _) fun _ => .pure _
  | trap | divide | recurse => exact .stop _
  | load => exact .bind (readWord_confined _) fun _ => .pure _
  | spin => exact spin_confined
  | builtin id arguments => exact .map (.builtin id _)

theorem runSteps_confined (g : Description) (scope : Scope) (register : UInt32)
    (steps : List Step) : Confined true fun host => runSteps g host scope register steps := by
  induction steps generalizing register with
  | nil => exact .pure _
  | cons step steps ih =>
      refine .bind (runStep_confined g scope register step) fun ending => ?_
      cases ending with
      | result register => exact ih register
      | code n => exact .pure _

theorem evaluate_confined (g : Description) (context : UInt32) :
    Confined true fun host => evaluate g host context := by
  refine .bind (readPart_confined _ _) fun input => .bind (readPart_confined _ _) fun data => ?_
  refine .bind (readPart_confined _ _) fun entrypoint => ?_
  refine .bind (runSteps_confined g _ 0 _) fun ending => ?_
  cases ending with
  | result a => exact .bind (fillPart_confined _ _ _) fun _ => .pure _
  | code n => exact .pure n

/-- What the guest does when it is started. -/
def runStart (g : Description) (host : Host) : StartAction → Run Unit
  | .trap => stop .unreachable
  | .abort => abort g.texts.startAbort
  | .print => print g.texts.startAbort
  | .builtin => do
      let _ ← host 0 []

theorem runStart_confined (g : Description) (action : StartAction) :
    Confined true fun host => runStart g host action := by
  cases action with
  | trap => exact .stop _
  | abort => exact .abort _
  | print => exact .print _
  | builtin => exact .bind (.builtin 0 []) fun _ => .pure ()

/-- The work of an export, unless it is one that only stops. -/
def guarded {α : Type} (g : Description) (e : Export) (work : Run α) : Run α :=
  if e ∈ g.trapping then stop .unreachable else work

theorem guarded_confined {α : Type} {work : Host → Run α} (g : Description) (e : Export)
    (h : Confined burns work) : Confined burns fun host => guarded g e (work host) :=
  .ite (.stop _) h

/-- The code behind an export. -/
def Description.code {α : Type} (g : Description) (e : Export) (work : Host → Run α)
    (h : Confined true work) : Code α where
  run host := guarded g e (work host)
  confined := guarded_confined g e h

end PolicyHost.Guest

namespace PolicyHost

open Guest in
/-- The guest that a description describes. It calls no builtin inside of
another one. -/
def Guest.described (g : Description) : Guest where
  minPages := g.minPages
  pageBound := g.pageBound
  needs := g.needs
  segments := g.segments
  heapStart := g.heapStart
  start := g.start.map fun action =>
    ⟨fun host => runStart g host action, runStart_confined g action⟩
  nesting := 1
  malloc count := g.code .allocate (fun _ => allocate g count) (allocate_confined g count)
  jsonParse a count := g.code .parse (fun _ => parse g a count) (parse_confined g a count)
  jsonDump value := g.code .dump (fun _ => pure value) (.pure value)
  eval context := g.code .evaluate
    (fun host => evaluate g host context) (evaluate_confined g context)
  makeContext := g.code .newContext (fun _ => newContext g) (newContext_confined g)
  setInput context value := g.code .setInput
    (fun _ => fillPart context (some g.context.input) value) (fillPart_confined _ _ _)
  setData context value := g.code .setData
    (fun _ => fillPart context g.context.data value) (fillPart_confined _ _ _)
  setEntrypoint context id := g.code .setEntrypoint
    (fun _ => fillPart context g.context.entrypoint id) (fillPart_confined _ _ _)
  getResult context := g.code .getResult
    (fun _ => readPart context (some g.context.result)) (readPart_confined _ _)
  getHeap := g.code .getHeap (fun _ => return (← get).heap) (.bind .look fun s => .pure s.heap)
  setHeap a := g.code .setHeap (fun _ => modify fun s => { s with heap := a }) (.heap fun _ => a)
  addPath data path value := g.code .addPath
    (fun _ => updatePath g.addPath [data, path, value]) (updatePath_confined _ _)
  removePath data path := g.code .removePath
    (fun _ => updatePath g.removePath [data, path]) (updatePath_confined _ _)
  builtins := g.code .builtins (fun _ => pure g.builtins) (.pure _)
  entrypoints := g.code .entrypoints (fun _ => pure g.entrypoints) (.pure _)
  absent := g.absent
  mistyped := g.mistyped

end PolicyHost

namespace PolicyHost.Guest

/-- What `fickle` is like but for its parser, which refuses texts that begin with the digit one. -/
def meek : Description :=
  { least with
    segments := [(16, terminated "\x7b\"upper\":0\x7d"), (32, terminated "0")]
    refusals := [("1".toUTF8.toList, .reject)] }

/-- Parses a text, and from the third one on asks for a builtin besides. The builtin is called on
a number, which it does not take. -/
def parseFickly (a count : UInt32) (host : Host) : Run UInt32 := do
  let value ← parse meek a count
  if value ≠ 0 ∧ 2 < (← get).globals then
    let _ ← host 0 [32]
  return value

theorem parseFickly_confined (a count : UInt32) : Confined true (parseFickly a count) := by
  refine .bind (parse_confined meek a count) fun value => .bind .look fun s => ?_
  exact .ite (.bind (.builtin 0 [32]) fun _ => .pure value) (.pure value)

/-- A guest that calls a builtin while it parses. -/
def fickle : Guest :=
  { Guest.described meek with
    jsonParse := fun a count => ⟨parseFickly a count, parseFickly_confined a count⟩ }

end PolicyHost.Guest
