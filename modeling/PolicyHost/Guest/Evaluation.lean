import PolicyHost.Guest.Operation

/-!
# Evaluation

A guest that is described evaluates by running the program of an entrypoint. On
the way it has builtins answered by its host.
-/

namespace PolicyHost.Guest

/-- What a program can refer to. -/
structure Scope where
  input : UInt32
  data : UInt32

def Scope.resolve (scope : Scope) (register : UInt32) : Argument → UInt32
  | .input => scope.input
  | .data => scope.data
  | .register => register
  | .address a => a

inductive Ending where
  | result (a : UInt32)
  | code (n : Int)

/-- Runs without end: until its fuel is used up, or for ever. -/
def spin {α : Type} : Run α := do
  burn (-1)
  stop .endless

/-- Runs a step, which gives the register or the code that the program ends
with. -/
def runStep (g : Description) (host : Host) (scope : Scope) (register : UInt32) :
    Step → Run Ending
  | .input => return .result scope.input
  | .data => return .result scope.data
  | .address a => return .result a
  | .wrap => .result <$> wrap g register
  | .allocate count => .result <$> allocate g count
  | .grow pages => do
      let _ ← growMemory pages.toNat
      return .result register
  | .abort => abort register
  | .print => do
      print register
      return .result register
  | .finish code => return .code code
  | .trap => stop .unreachable
  | .load => do
      let _ ← readWord register.toNat
      return .result register
  | .divide => stop .divisionByZero
  | .spin => spin
  | .recurse => stop .stackExhausted
  | .builtin id arguments =>
      .result <$> host id (arguments.map (scope.resolve register))

def runSteps (g : Description) (host : Host) (scope : Scope) : (register : UInt32) →
    List Step → Run Ending
  | register, [] => return .result register
  | register, step :: steps => do
      match ← runStep g host scope register step with
      | .result register => runSteps g host scope register steps
      | .code n => return .code n

/-- The program of an entrypoint; a number without one has the first. -/
def Description.program (g : Description) (entrypoint : UInt32) : List Step :=
  match g.programs[entrypoint.toNat]? with
  | some steps => steps
  | none => g.programs.headD []

/-- Evaluates in a context: runs the program of its entrypoint, keeps the
result in the context, and gives a code, zero for success. -/
def evaluate (g : Description) (host : Host) (context : UInt32) : Run Int := do
  let input ← readPart context (some g.context.input)
  let data ← readPart context g.context.data
  let entrypoint ← readPart context g.context.entrypoint
  match ← runSteps g host ⟨input, data⟩ 0 (g.program entrypoint) with
  | .result a =>
      fillPart context (some g.context.result) a
      return 0
  -- The result in the context stays as it was.
  | .code n => return n

end PolicyHost.Guest
