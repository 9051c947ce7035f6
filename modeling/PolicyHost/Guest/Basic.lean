/-!
# Guests that are described

A guest is a compiled policy together with the small machine that it brings
along. Most guests are built alike: an allocator that moves one heap pointer, a
parser that copies JSON texts, evaluation contexts, and a program for every
entrypoint. A value of such a guest is the address of a JSON text in its memory,
so writing a value out is finding that text.

A `Description` says all of this as data. `sample` and `least` describe two
guests in full: one with programs that reach every service of the host, and
one with nothing that it can do without.
-/

namespace PolicyHost

/-- The operations that a guest may offer to its host. -/
inductive Export where
  | allocate
  | parse
  | dump
  | evaluate
  | newContext
  | setInput
  | setData
  | getResult
  | getHeap
  | setHeap
  | setEntrypoint
  | addPath
  | removePath
  | builtins
  | entrypoints
deriving DecidableEq, Inhabited

def Export.name : Export → String
  | .allocate => "opa_malloc"
  | .parse => "opa_json_parse"
  | .dump => "opa_json_dump"
  | .evaluate => "eval"
  | .newContext => "opa_eval_ctx_new"
  | .setInput => "opa_eval_ctx_set_input"
  | .setData => "opa_eval_ctx_set_data"
  | .getResult => "opa_eval_ctx_get_result"
  | .getHeap => "opa_heap_ptr_get"
  | .setHeap => "opa_heap_ptr_set"
  | .setEntrypoint => "opa_eval_ctx_set_entrypoint"
  | .addPath => "opa_value_add_path"
  | .removePath => "opa_value_remove_path"
  | .builtins => "builtins"
  | .entrypoints => "entrypoints"

namespace Guest

/-- What a program gives to a builtin. -/
inductive Argument where
  | input
  | data
  | register
  | address (a : UInt32)
deriving DecidableEq

/-- A step of a program. Programs work on one register, which is zero at the
start. -/
inductive Step where
  | input
  | data
  | address (a : UInt32)
  /-- The register becomes a result set: with the value at its address as the
  only result, or empty for the null address. -/
  | wrap
  /-- The register becomes the address of so many new bytes. -/
  | allocate (bytes : UInt32)
  /-- Asks for more pages of memory, and goes on in any case. -/
  | grow (pages : UInt32)
  /-- Gives up with the text at the register. -/
  | abort
  | print
  /-- Ends the evaluation with a code. -/
  | finish (code : Int)
  | trap
  /-- Reads a word at the register, and forgets it. -/
  | load
  | divide
  | spin
  | recurse
  | builtin (id : UInt32) (arguments : List Argument)
deriving DecidableEq

/-- What the parser does with a text that it does not copy. -/
inductive Refusal where
  /-- Answers with the null address. -/
  | reject
  | trap
  /-- Gives up with a text of its own. -/
  | abort
deriving DecidableEq

/-- What a guest does when it is started. -/
inductive StartAction where
  | trap
  | abort
  | print
  /-- Calls a builtin without operands. -/
  | builtin
deriving DecidableEq

/-- Where an evaluation context keeps its parts, as distances from its start.
A guest that has no use for a part keeps none. -/
structure ContextLayout where
  size : UInt32
  input : Nat
  data : Option Nat
  entrypoint : Option Nat
  result : Nat
deriving DecidableEq

/-- What a guest does to update a path of its data. -/
structure PathUpdate where
  prints : Bool
  code : Int
deriving DecidableEq

/-- The fixed texts that a guest refers to by address. -/
structure Texts where
  opening : UInt32
  closing : UInt32
  emptySet : UInt32
  /-- What the parser gives up with. -/
  parseAbort : UInt32 := 0
  /-- What the start action prints or gives up with. -/
  startAbort : UInt32 := 0
deriving DecidableEq

/-- What there is to say of a guest of the usual kind. -/
structure Description where
  minPages : Nat := 1
  /-- The pages that its memory may have, if it bounds them. -/
  pageBound : Option Nat := none
  /-- The functions of one argument that it needs from the host beyond the
  common ones. -/
  needs : List String := []
  /-- The bytes that its memory holds at the start, under their addresses. -/
  segments : List (Nat × List UInt8) := []
  heapStart : UInt32
  /-- From how many bytes on the allocator refuses. -/
  refusesFrom : Option UInt32 := none
  /-- Whether the allocator asks for more memory when it runs out. -/
  grows : Bool := true
  /-- How many texts the parser takes at most. -/
  parseLimit : Option Nat := none
  /-- How many bytes the parser looks at, however short the text is, before it
  decides whether to copy it. -/
  peeks : Nat := 0
  /-- The beginnings of texts that the parser does not copy. -/
  refusals : List (List UInt8 × Refusal) := []
  builtins : UInt32
  entrypoints : UInt32 := 0
  context : ContextLayout
  texts : Texts
  /-- The program of every entrypoint; the first is for every other number too. -/
  programs : List (List Step)
  addPath : PathUpdate := ⟨false, 0⟩
  removePath : PathUpdate := ⟨false, 0⟩
  start : Option StartAction := none
  /-- The operations that it does not offer. -/
  absent : List Export := []
  /-- The operations that it offers with another type. -/
  mistyped : List Export := []
  /-- The operations that only stop. -/
  trapping : List Export := []
deriving DecidableEq

def terminated (text : String) : List UInt8 :=
  text.toUTF8.toList ++ [0]

def fullContext : ContextLayout :=
  ⟨16, 0, some 4, some 8, 12⟩

def openingText : String := "[\x7b\"result\":"

def closingText : String := "\x7d]"

/-- A guest with a program for every service of the host. Its parser rejects
strings that begin with an exclamation mark, and its path updates change
nothing; only the one that removes fails. -/
def sample : Description where
  minPages := 2
  segments :=
    [(16, terminated ("\x7b\"concat\":0,\"contains\":1,\"custom.missing\":2,\"time.now_ns\":3," ++
        "\"replace\":4,\"time.add_date\":5\x7d")),
     (128, terminated ("\x7b\"echo\":0,\"raw\":1,\"concat\":2,\"abort\":3,\"missing\":4," ++
        "\"trace\":5,\"data\":6,\"contains\":7,\"now\":8,\"replace\":9,\"add_date\":10," ++
        "\"arity\":11,\"unknown\":12,\"spin\":13\x7d")),
     (512, terminated "policy raised abort"),
     (576, terminated "trace: evaluating policy"),
     (640, terminated openingText),
     (656, terminated closingText),
     (664, terminated "[]"),
     (672, terminated "\"_\""),
     (680, terminated "0"),
     (688, terminated "1")]
  heapStart := 1024
  peeks := 2
  refusals := [("\"!".toUTF8.toList, .reject)]
  builtins := 16
  entrypoints := 128
  context := fullContext
  texts := { opening := 640, closing := 656, emptySet := 664 }
  programs :=
    [[.input, .wrap],
     [.input],
     [.builtin 0 [.data, .input], .wrap],
     [.address 512, .abort],
     [.builtin 2 [.input], .wrap],
     [.address 576, .print, .data, .wrap],
     [.data, .wrap],
     [.builtin 1 [.data, .input], .wrap],
     [.builtin 3 [], .wrap],
     [.builtin 4 [.input, .data, .address 672], .wrap],
     [.builtin 5 [.input, .address 680, .address 680, .address 688], .wrap],
     [.builtin 0 [.input], .wrap],
     [.builtin 99 [], .wrap],
     [.spin]]
  removePath := ⟨false, 3⟩

/-- A guest with the required operations only. It answers with its input, has
no use for data, and never asks for more memory. -/
def least : Description where
  segments := [(16, terminated "\x7b\x7d")]
  heapStart := 256
  grows := false
  builtins := 16
  context := ⟨8, 0, none, none, 4⟩
  texts := { opening := 0, closing := 0, emptySet := 0 }
  programs := [[.input]]
  absent := [.setEntrypoint, .addPath, .removePath, .entrypoints]

/-- A module that offers nothing. -/
def bare : Description where
  minPages := 0
  heapStart := 0
  builtins := 0
  context := fullContext
  texts := { opening := 0, closing := 0, emptySet := 0 }
  programs := []
  absent := [.allocate, .parse, .dump, .evaluate, .newContext, .setInput, .setData, .getResult,
    .getHeap, .setHeap, .setEntrypoint, .addPath, .removePath, .builtins, .entrypoints]

end Guest

end PolicyHost
