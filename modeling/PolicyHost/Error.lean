import PolicyHost.Address
import PolicyHost.Number.Digits

/-!
# Failures of the host

Everything that can go wrong between the host and a guest is one `Error`,
whichever side it starts on: an error raised while the guest calls the host
ends the guest's call and reaches the caller unchanged. Each kind of error
says its cause, and `Error.message` words all of them.
-/

namespace PolicyHost

/-- Why a value could not cross between host and guest. -/
inductive TransferFault where
  | unencodable
  /-- A text of so many bytes has no room in any guest. -/
  | oversized (length : Nat)
  | unterminated (address : Address)
  | malformed (address : Address)
  /-- A table of the guest does not map names to ids; the table is named. -/
  | badTable (table : String)
  /-- A cause in the words of a caller, and whether a reader or writer of
  JSON raised it. -/
  | other (text : String) (sourced : Bool)
deriving DecidableEq

namespace TransferFault

def message : TransferFault → String
  | .unencodable => "failed to encode value as JSON"
  | .oversized length => Decimal.text length ++ " byte payload exceeds the guest address space"
  | .unterminated address => "string at " ++ address.toText ++ " is not null-terminated"
  | .malformed address => "guest produced invalid JSON at " ++ address.toText
  | .badTable table => "malformed " ++ table ++ " table"
  | .other text _ => text

/-- Whether a reader or writer of JSON raised the fault. -/
def hasSource : TransferFault → Bool
  | .unencodable | .malformed _ | .badTable _ => true
  | .oversized _ | .unterminated _ => false
  | .other _ sourced => sourced

end TransferFault

/-- Why a guest stopped in the middle of a call. -/
inductive TrapCause where
  /-- The guest gave up. -/
  | unreachable
  | outOfBounds
  | divisionByZero
  | stackExhausted
  | outOfFuel
  /-- The guest runs without end. -/
  | endless
  /-- The host was to write so many bytes outside the guest's memory. -/
  | writeOutside (count : Nat) (address : Address)
  | readOutside (address : Address)
  /-- The guest called a builtin before its tables were read. -/
  | earlyCall
  /-- The evaluation ended with a code that is not zero. -/
  | evaluationCode (code : Int)
  | updateCode (code : Int)
  | other (text : String)
deriving DecidableEq

def TrapCause.message : TrapCause → String
  | .unreachable => "wasm trap: wasm \x60unreachable\x60 instruction executed"
  | .outOfBounds => "wasm trap: out of bounds memory access"
  | .divisionByZero => "wasm trap: integer divide by zero"
  | .stackExhausted => "wasm trap: call stack exhausted"
  | .outOfFuel => "wasm trap: all fuel consumed by WebAssembly"
  | .endless => "evaluation does not end"
  | .writeOutside count address =>
      "writing " ++ Decimal.text count ++ " bytes at " ++ address.toText ++
        ": out of bounds memory access"
  | .readOutside address => "address " ++ address.toText ++ " is outside linear memory"
  | .earlyCall => "builtin called before the module finished loading"
  | .evaluationCode code => "eval returned error code " ++ Decimal.intText code
  | .updateCode code => "data path update returned error code " ++ Decimal.intText code
  | .other text => text

/-- Why a guest does not run at all. -/
inductive EngineFault where
  | notCompiled
  /-- The guest needs something that the host does not have; it is named. -/
  | notLinked (need : String)
  /-- The guest stopped in its start action. -/
  | startTrapped (cause : TrapCause)
  | other (text : String)
deriving DecidableEq

def EngineFault.message : EngineFault → String
  | .notCompiled => "Failed to compile policy module: not a module"
  | .notLinked need => "Failed to instantiate policy module: no " ++ need
  | .startTrapped cause => "Failed to instantiate policy module: " ++ cause.message
  | .other text => text

/-- Why an export of a guest cannot be used. -/
inductive ExportFault where
  | absent
  | mistyped
  /-- The guest has the export of no operation that it may leave out. -/
  | unsupported
  | other (text : String)
deriving DecidableEq

def ExportFault.message : ExportFault → String
  | .absent => "no such export"
  | .mistyped => "unexpected type"
  | .unsupported => "not exported by this policy module"
  | .other text => text

def maxMegabytes : Nat := 4096

def maxPages : Nat := 65536

/-- Why a configuration is refused, or a request that goes by names. -/
inductive ConfigFault where
  | memoryLimit (megabytes : Nat)
  | initialPages (pages : Nat)
  | pagesAboveLimit (pages : Nat) (megabytes : Nat)
  | cacheCapacity
  | unknownEntrypoint (name : String)
  | other (text : String)
deriving DecidableEq

def ConfigFault.message : ConfigFault → String
  | .memoryLimit megabytes =>
      "memory limit must be between 1 and " ++ Decimal.text maxMegabytes ++ " MB, got " ++
        Decimal.text megabytes
  | .initialPages pages =>
      "initial_memory_pages must be between 1 and " ++ Decimal.text maxPages ++ ", got " ++
        Decimal.text pages
  | .pagesAboveLimit pages megabytes =>
      "initial memory (" ++ Decimal.text pages ++ " pages) exceeds memory limit " ++
        Decimal.text megabytes ++ "MB"
  | .cacheCapacity => "module_cache_capacity must be greater than zero"
  | .unknownEntrypoint name => "policy has no entrypoint named '" ++ name ++ "'"
  | .other text => text

/-- A failure of the host or of a guest. -/
inductive Error where
  | transfer (fault : TransferFault)
  /-- The guest refused a text of so many bytes, which was at an address. -/
  | refusedText (address : Address) (length : Nat)
  /-- The guest called a builtin that the host does not have; the name is
  known when the guest's table has the id. -/
  | notImplemented (id : BuiltinId) (name : Option String)
  /-- The guest gave up with a message. -/
  | aborted (text : String)
  | builtinArity (name : String) (expected actual : Nat)
  /-- A builtin failed, and failures of builtins are not passed over. -/
  | builtinFailed (name : String) (text : String)
  | missingExport (name : String) (fault : ExportFault)
  | engine (fault : EngineFault)
  | trap (cause : TrapCause)
  | config (fault : ConfigFault)
  /-- The host went down in a builtin. -/
  | crashed (text : String)
deriving DecidableEq

namespace Error

def message : Error → String
  | .transfer fault => "Serialization error: " ++ fault.message
  | .refusedText address length =>
      "guest failed to parse " ++ Decimal.text length ++ " bytes of JSON at " ++ address.toText
  | .notImplemented id none => "builtin not implemented: id " ++ Decimal.text id.value.toNat
  | .notImplemented id (some name) =>
      "builtin not implemented: " ++ name ++ " (id " ++ Decimal.text id.value.toNat ++ ")"
  | .aborted text => "guest aborted: " ++ text
  | .builtinArity name expected actual =>
      "builtin '" ++ name ++ "' expects " ++ Decimal.text expected ++ " argument(s), got " ++
        Decimal.text actual
  | .builtinFailed name text => "builtin '" ++ name ++ "' failed: " ++ text
  | .missingExport name fault =>
      "policy module export '" ++ name ++ "' unavailable: " ++ fault.message
  | .engine fault => "WASM error: " ++ fault.message
  | .trap cause => "guest trapped: " ++ cause.message
  | .config fault => "Configuration error: " ++ fault.message
  | .crashed text => text

/-- Whether the guest's heap may be in disorder after the error. -/
def taints : Error → Bool
  | .aborted _ | .trap _ => true
  | _ => false

def isBuiltin : Error → Bool
  | .builtinArity _ _ _ | .builtinFailed _ _ => true
  | _ => false

def hasSource : Error → Bool
  | .transfer fault => fault.hasSource
  | _ => false

end Error

end PolicyHost
