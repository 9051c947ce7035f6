import PolicyHost.CommandLine.ConfigFile
import PolicyHost.CommandLine.Document
import PolicyHost.CommandLine.Options
import PolicyHost.Engine

/-!
# Carrying out a command line

A run reads the configuration, starts a session with the policy, and either
lists the policy's tables or sets the data, evaluates and writes the result
set. It stops at the first failure. What it writes comes last.
-/

namespace PolicyHost.CommandLine

open Json Guest

/-- Why a run failed. -/
inductive Failure where
  | unreadableConfig (path : String)
  | badConfig (path : String)
  | config (e : Error)
  | unreadablePolicy (path : String)
  /-- No session starts with the policy. -/
  | policy (path : String) (e : Error)
  | document (fault : DocumentFault)
  /-- The policy does not take the data. -/
  | data (e : Error)
  | evaluation (e : Error)

/-- What the run was about when it failed; an unusable configuration speaks
for itself. -/
def Failure.context : Failure → Option String
  | .unreadableConfig path => some ("Failed to read config file " ++ path)
  | .badConfig path => some ("Invalid config file " ++ path)
  | .config _ => none
  | .unreadablePolicy path => some ("Failed to read policy " ++ path)
  | .policy path _ => some ("Failed to load policy " ++ path)
  | .document fault => some fault.message
  | .data _ => some "Failed to set data"
  | .evaluation _ => some "Evaluation failed"

def Failure.cause : Failure → Option Error
  | .config e | .policy _ e | .data e | .evaluation e => some e
  | _ => none

def configOf (files : Files) (options : Options) : Except Failure Config :=
  match options.config with
  | none => .ok {}
  | some path =>
      match files.readText? path with
      | none => .error (.unreadableConfig path)
      | some text =>
          match configOfText? text with
          | none => .error (.badConfig path)
          | some config => (config.validate.map fun _ => config).mapError .config

/-- The tables of a session as a document. -/
def listing (s : Session) : Value :=
  let table := s.services.table.getD ⟨[], []⟩
  .object
    [("builtins", .object (table.slots.map fun (id, slot) =>
        (Decimal.text id.toNat, .string slot.name))),
     ("entrypoints", .object (s.entrypoints.map fun (name, id) => (name, .ofInt id.value.toNat))),
     ("unimplemented", .array (table.unimplemented.map .string))]

/-- What came out of a run so far. -/
structure Console where
  output : String := ""
  printed : List String := []

/-- A part of a run, which can fail. -/
abbrev Job := ExceptT Failure (StateM Console)

def writeLine (text : String) : Job Unit :=
  modify fun console => { console with output := console.output ++ text ++ "\n" }

def passOn (lines : List String) : Job Unit :=
  modify fun console => { console with printed := console.printed ++ lines }

/-- Starts the session that the options ask for. -/
def openSession (compiler : Compiler) (files : Files) (registry : Builtin.Registry)
    (options : Options) : Job Session := do
  let config ← configOf files options
  let engine ← (Engine.create compiler config registry).mapError Failure.config
  match files.read? options.policy with
  | none => throw (.unreadablePolicy options.policy)
  | some image =>
      let ((session, lines), _) := engine.load image
      passOn lines
      session.mapError (Failure.policy options.policy)

/-- Performs an operation on a session, and gives its value and the session after it; its
failure is `failed`. -/
def perform (failed : Error → Failure) (operation : Session.Operation) (s : Session) :
    Job (Value × Session) := do
  let (result, s) := (Session.perform operation).run s
  let (lines, s) := s.takePrinted
  -- What was printed is passed on also when the operation failed.
  passOn lines
  let v ← result.mapError failed
  return (v, s)

def documentOf (files : Files) (argument : String) : Except Failure Value :=
  (document files argument).mapError .document

def setData (files : Files) (options : Options) (s : Session) : Job Session := do
  match options.data with
  | none => return s
  | some argument =>
      let data ← documentOf files argument
      let (_, s) ← perform .data (.setData (.json data)) s
      return s

def inputOf (files : Files) (options : Options) : Except Failure Value :=
  match options.input with
  | none => .ok .null
  | some argument => documentOf files argument

def targetOf (options : Options) : Session.Target :=
  match options.entrypoint with
  | none => .main
  | some name => .named name

/-- Sets the data and evaluates, as the options ask. -/
def evaluate (files : Files) (options : Options) (s : Session) : Job Value := do
  let s ← setData files options s
  let input ← inputOf files options
  let (results, _) ← perform .evaluation (.evaluate (targetOf options) (.json input)) s
  return results

def resultText (options : Options) (results : Value) : String :=
  if options.asBool then (if Session.holds results then "true" else "false")
  else results.toIndentedText

def job (compiler : Compiler) (files : Files) (registry : Builtin.Registry) (options : Options) :
    Job Unit := do
  let s ← openSession compiler files registry options
  if options.list then writeLine (listing s).toIndentedText
  else
    let results ← evaluate files options s
    writeLine (resultText options results)

/-- What a run did. -/
structure Report extends Console where
  result : Except Failure Unit

def run (compiler : Compiler) (files : Files) (registry : Builtin.Registry) (options : Options) :
    Report :=
  let (result, console) := (job compiler files registry options).run {}
  { console with result }

end PolicyHost.CommandLine
