import PolicyHost.Guest.Image
import PolicyHost.Json.Value
import PolicyHost.Number.Hexadecimal

/-!
# Descriptions of guests

A guest can be described by a JSON object. Each member says one thing of it,
and what no member says is as in the plainest guest. The texts that a
description needs lie one behind the other from `firstText` on, in a fixed
order: those that every guest has, the two tables, and then every constant of
the programs as it comes. Other texts name guests that are known, and bytes
stand for a module.
-/

namespace PolicyHost.Guest

open Json

def firstText : UInt32 := 16

def firstFree : UInt32 := 4096

/-- The texts placed so far: where the next one goes, and those placed, the
latest first. -/
structure Layout where
  next : UInt32 := firstText
  placed : List (Nat × List UInt8) := []

namespace Layout

/-- Places a text, with the zero that ends it, and gives its address. -/
def place (bytes : List UInt8) (l : Layout) : UInt32 × Layout :=
  (l.next, ⟨l.next + UInt32.ofNat bytes.length + 1, (l.next.toNat, bytes ++ [0]) :: l.placed⟩)

def segments (l : Layout) : List (Nat × List UInt8) :=
  l.placed.reverse

end Layout

/-- Reads a description: it may fail, and places texts on the way. -/
abbrev Reading := StateT Layout Option

def placeText (bytes : List UInt8) : Reading UInt32 :=
  modifyGet (Layout.place bytes)

/-- Bytes that a value spells: a text, or an object with hexadecimal digits. -/
def bytes? : Value → Option (List UInt8)
  | .string s => some s.toUTF8.toList
  | v =>
      match v.get? "hex" with
      | some (.string s) => Hexadecimal.toBytes? s.toList
      | _ => none

def int? : Value → Option Int
  | .number (.integer n _) => some n
  | _ => none

def word? (v : Value) : Option UInt32 :=
  (int? v).map wordOfSigned

def items? : Value → Option (List Value)
  | .array items => some items
  | _ => none

/-- A member, read by `read`; there is none when the object has none, or null. -/
def member? {α : Type} (v : Value) (key : String) (read : Value → Option α) : Option (Option α) :=
  match v.get? key with
  | none => some none
  | some .null => some none
  | some w => (read w).map some

def readArgument (v : Value) : Reading Argument :=
  match v with
  | .string "input" => return .input
  | .string "data" => return .data
  | .string "r" => return .register
  | v =>
      match v.get? "const", v.get? "addr" with
      | some text, _ => do
          let bytes ← bytes? text
          return .address (← placeText bytes)
      | none, some a => do return .address (← word? a)
      | none, none => failure

def readStep (v : Value) : Reading Step := do
  match ← items? v with
  | [.string "input"] => return .input
  | [.string "data"] => return .data
  | [.string "const", text] => do
      let bytes ← bytes? text
      return .address (← placeText bytes)
  | [.string "addr", a] => return .address (← word? a)
  | [.string "wrap"] => return .wrap
  | [.string "alloc", count] => return .allocate (← word? count)
  | [.string "grow", pages] => return .grow (← word? pages)
  | [.string "abort"] => return .abort
  | [.string "print"] => return .print
  | [.string "code", n] => return .finish (← int? n)
  | [.string "trap"] => return .trap
  | [.string "load"] => return .load
  | [.string "div"] => return .divide
  | [.string "spin"] => return .spin
  | [.string "recurse"] => return .recurse
  | .string "builtin" :: id :: arguments => do
      let id ← word? id
      return .builtin id (← arguments.mapM readArgument)
  | _ => failure

def readProgram (v : Value) : Reading (List Step) := do
  (← items? v).mapM readStep

def refusalOf? (v : Value) : Option (List UInt8 × Refusal) :=
  match v with
  | .array [start, .string action] => do
      let start ← bytes? start
      match action with
      | "reject" => return (start, .reject)
      | "trap" => return (start, .trap)
      | "abort" => return (start, .abort)
      | _ => none
  | _ => none

def Export.ofName? (name : String) : Option Export :=
  [Export.allocate, .parse, .dump, .evaluate, .newContext, .setInput, .setData, .getResult,
    .getHeap, .setHeap, .setEntrypoint, .addPath, .removePath, .builtins, .entrypoints].find?
      (·.name = name)

/-- The operations in a list of names. Other names have no effect. -/
def exports? (v : Value) : Option (List Export) := do
  return (← items? v).filterMap fun
    | .string name => Export.ofName? name
    | _ => none

def startOf? : Value → Option StartAction
  | .string "trap" => some .trap
  | .string "abort" => some .abort
  | .string "print" => some .print
  | .string "builtin" => some .builtin
  | _ => none

def updateOf? (v : Value) : Option PathUpdate :=
  (int? v).map (⟨true, ·⟩)

def needOf? : Value → Option (List String)
  | .string name => some [name]
  | _ => none

def read (v : Value) : Reading Description := do
  let opening ← placeText openingText.toUTF8.toList
  let closing ← placeText closingText.toUTF8.toList
  let emptySet ← placeText "[]".toUTF8.toList
  let parseAbort ← placeText "parse abort".toUTF8.toList
  let startAbort ← placeText "start abort".toUTF8.toList
  let table ← member? v "builtins" bytes?
  let builtins ← placeText (table.getD "\x7b\x7d".toUTF8.toList)
  let entrypointTable ← member? v "entrypoints" bytes?
  let entrypoints ← match entrypointTable with
    | some bytes => placeText bytes
    | none => pure 0
  let programs ← match ← member? v "eval" items? with
    | some programs => programs.mapM readProgram
    | none => pure [[.input]]
  let addPath ← member? v "add_path" updateOf?
  let removePath ← member? v "remove_path" updateOf?
  let omitted ← member? v "omit" exports?
  let absent :=
    omitted.getD [] ++
      (if entrypointTable.isNone then [.entrypoints] else []) ++
      (if addPath.isNone then [.addPath] else []) ++
      (if removePath.isNone then [.removePath] else [])
  return {
    minPages := ((← member? v "pages" (·.natBelow? (2 ^ 32))).getD 1)
    pageBound := ← member? v "max_pages" (·.natBelow? (2 ^ 32))
    needs := (← member? v "extra_import" needOf?).getD []
    segments := (← get).segments
    heapStart := firstFree
    refusesFrom := ← member? v "big_malloc" word?
    parseLimit := ← member? v "parse_limit" (·.natBelow? (2 ^ 32))
    refusals := (← member? v "parse" fun v => do (← items? v).mapM refusalOf?).getD []
    builtins := (← member? v "builtins_at" word?).getD builtins
    entrypoints
    context := fullContext
    texts := { opening, closing, emptySet, parseAbort, startAbort }
    programs
    addPath := addPath.getD ⟨false, 0⟩
    removePath := removePath.getD ⟨false, 0⟩
    start := (← member? v "start" fun v => some (startOf? v)).join
    absent
    mistyped := (← member? v "mistype" exports?).getD []
    trapping := (← member? v "trap_in" exports?).getD [] }

def named? : String → Option Description
  | "policy" => some sample
  | "minimal" => some least
  | _ => none

def Image.ofValue? (v : Value) : Option Image :=
  match v with
  | .string name => (named? name).map .described
  | .object _ =>
      match v.get? "hex" with
      | some (.string s) => (Hexadecimal.toBytes? s.toList).map .bytes
      | _ => (read v |>.run {}).map fun (g, _) => .described g
  | _ => none

end PolicyHost.Guest
