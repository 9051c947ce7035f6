import PolicyHost.CommandLine.Run
import PolicyHost.Guest.Description
import Std.Time.DateTime.Timestamp

/-!
# The program

The command line program: it reads the words, the files that they refer to and
the clock, has the run carried out, and writes what came of it. A policy file
holds the description of a guest or the bytes of a module.
-/

namespace PolicyHost.CommandLine

open Guest

/-- The image that the bytes of a file are. -/
def imageOfBytes (bytes : ByteArray) : Image :=
  ((Json.ofBytes? bytes).bind Image.ofValue?).getD (.bytes bytes.toList)

/-- Reads a file, as it is or as a policy. -/
def readFile (files : Files) (path : String) (isPolicy : Bool) : IO Files := do
  try
    let bytes ← IO.FS.readBinFile path
    let image := if isPolicy then imageOfBytes bytes else .bytes bytes.toList
    return (String.ofList (relative path.toList), image) :: files
  catch _ => return files

/-- The path in an argument that refers to a file. -/
def referredPath? (argument : Option String) : Option String :=
  match argument.map String.toList with
  | some ('@' :: path) => some (String.ofList path)
  | _ => none

/-- Reads the files that the options refer to. The policy is found first. -/
def readFiles (options : Options) : IO Files := do
  let mut files : Files := []
  for path in [referredPath? options.data, referredPath? options.input, options.config] do
    if let some path := path then files ← readFile files path false
  readFile files options.policy true

def helpText : String :=
  "Evaluate a compiled OPA policy module.\n\n" ++
  "Usage: opa-eval [OPTIONS] --policy <POLICY>\n\n" ++
  "Options:\n" ++
  "  -p, --policy <POLICY>          Compiled policy module\n" ++
  "  -d, --data <DATA>              Data document, as JSON or @file\n" ++
  "  -i, --input <INPUT>            Input document, as JSON or @file (default: null)\n" ++
  "  -e, --entrypoint <ENTRYPOINT>  Entrypoint to evaluate instead of the default\n" ++
  "      --bool                     Print only whether there is a single true result\n" ++
  "  -c, --config <CONFIG>          Configuration file\n" ++
  "      --list                     List builtins and entrypoints instead of evaluating\n" ++
  "  -v, --verbose                  Enable verbose logging\n" ++
  "  -h, --help                     Print help\n" ++
  "  -V, --version                  Print version"

def Usage.message : Usage → String
  | .unknownArgument => "unexpected argument"
  | .argumentConflict => "arguments cannot be used together or more than once"
  | .missingRequiredArgument =>
      "the following required argument was not provided: --policy <POLICY>"
  | .invalidValue => "an option needs a value that is not empty"
  | .tooManyValues => "unexpected value for a flag"
  | .displayHelp => helpText
  | .displayVersion => "opa-eval"

def Failure.message (failure : Failure) : String :=
  match failure.context, failure.cause with
  | some context, some cause => context ++ ": " ++ cause.message
  | some context, none => context
  | none, some cause => cause.message
  | none, none => ""

/-- Carries out a command line, and gives the code that the program ends with. -/
def carryOut (words : List String) : IO UInt32 := do
  match Options.ofWords words with
  | .error .displayHelp => IO.println (Usage.message .displayHelp); return 0
  | .error .displayVersion => IO.println (Usage.message .displayVersion); return 0
  | .error usage => IO.eprintln ("error: " ++ usage.message); return 2
  | .ok options =>
      let clock := (← Std.Time.Timestamp.now).toNanosecondsSinceUnixEpoch.val
      let report := run .least (← readFiles options) (.standard clock) options
      report.printed.forM fun text => IO.eprintln text
      IO.print report.output
      match report.result with
      | .ok () => return 0
      | .error failure => IO.eprintln ("Error: " ++ failure.message); return 1

end PolicyHost.CommandLine

def main (words : List String) : IO UInt32 :=
  PolicyHost.CommandLine.carryOut words
