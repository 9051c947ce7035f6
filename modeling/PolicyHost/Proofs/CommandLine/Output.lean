import PolicyHost.Proofs.CommandLine.Listing
import PolicyHost.Proofs.Session.Data

/-!
# What a run writes

A run writes the answer of the session interface, or nothing. Everything before the last
step of a run leaves the output alone, so a run that fails has written nothing; and whether
these steps give something, and what, does not depend on what was written or printed before.
`Reaches` says what a step gives, and for each step it comes to what the session interface
gives when it is asked for the same (`Opens`, `Prepared`, `Answered`).
-/

namespace PolicyHost.CommandLine

open Json Guest

variable {α β : Type} {compiler : Compiler} {files : Files} {registry : Builtin.Registry}
  {options : Options}
  {s t : Session} {console : Console}

/-! ## What steps give -/

/-- From a console on, a step gives a value. -/
def Reaches (work : Job α) (console : Console) (a : α) : Prop :=
  ∃ later, work.run console = (.ok a, later)

/-- A session that was started with the configuration and the policy that the options name. -/
def Opens (compiler : Compiler) (files : Files) (registry : Builtin.Registry) (options : Options)
    (s : Session) : Prop :=
  ∃ config, configOf files options = .ok config ∧
    ∃ engine, Engine.create compiler config registry = .ok engine ∧
      ∃ image lines, files.read? options.policy = some image ∧
        (engine.load image).1 = (.ok s, lines)

/-- The text that a run writes in the end. -/
def answer (compiler : Compiler) (files : Files) (registry : Builtin.Registry)
    (options : Options) : Job String := do
  let s ← openSession compiler files registry options
  if options.list then return (listing s).toIndentedText
  else
    let results ← evaluate files options s
    return resultText options results

/-- The tables of a session that was opened list every id and every name once. -/
theorem Opens.ordered (h : Opens compiler files registry options s) :
    ∃ table, s.services.table = some table ∧ Tables.Ordered ⟨table, s.entrypoints⟩ := by
  obtain ⟨config, -, engine, -, image, lines, -, hload⟩ := h
  rw [Engine.load] at hload
  split at hload
  · cases hload
  · exact Session.launch_tables hload

end PolicyHost.CommandLine
