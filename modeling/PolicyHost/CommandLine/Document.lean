import PolicyHost.Guest.Image
import PolicyHost.Json.Reader

/-!
# Files and documents

The files that a command line can refer to, and the JSON documents on it: a
document is written out, or an at sign and the name of a file stand for it.
-/

namespace PolicyHost.CommandLine

open Guest

/-- The files in the directory that the program runs in, under their names. -/
abbrev Files := List (String × Image)

/-- A path without the steps at its front that lead to where they start. -/
def relative (path : List Char) : List Char :=
  match path with
  | '.' :: '/' :: rest => relative (rest.dropWhile (· = '/'))
  | path => path
termination_by path.length
decreasing_by
  have := (List.dropWhile_suffix (· = '/') : rest.dropWhile _ <:+ rest).length_le
  simp only [List.length_cons]
  omega

def Files.read? (files : Files) (path : String) : Option Image :=
  files.lookup (String.ofList (relative path.toList))

/-- The text of the file at a path. A module is no text. -/
def Files.readText? (files : Files) (path : String) : Option String :=
  match files.read? path with
  | some (.bytes content) => String.fromUTF8? content.toByteArray
  | _ => none

/-- Why there is no document. -/
inductive DocumentFault where
  | unreadable (path : String)
  | badFile (path : String)
  | badText

def DocumentFault.message : DocumentFault → String
  | .unreadable path => "Failed to read JSON document from " ++ path
  | .badFile path => "Invalid JSON in " ++ path
  | .badText => "Argument is not valid JSON (use @file to read a file)"

def document (files : Files) (argument : String) : Except DocumentFault Json.Value :=
  match argument.toList with
  | '@' :: name =>
      let path := String.ofList name
      match files.readText? path with
      | none => .error (.unreadable path)
      | some text =>
          match Json.parse? text with
          | some v => .ok v
          | none => .error (.badFile path)
  | _ =>
      match Json.parse? argument with
      | some v => .ok v
      | none => .error .badText

end PolicyHost.CommandLine
