import PolicyHost.Digest.Blake3
import PolicyHost.Guest.Described

/-!
# Images

An image is what a policy is handed over as: a description of a guest, or
the bytes of a module. Which bytes are a module, and what guest it is, is for a
`Compiler` to say. What was compiled is known by the digest of its bytes, and
for a guest that is described the description stands for that.
-/

namespace PolicyHost.Guest

/-- What a policy is handed over as. -/
inductive Image where
  | bytes (content : List UInt8)
  | described (description : Description)
deriving DecidableEq

/-- The bytes of the module without any part: its mark and its version. -/
def emptyModule : List UInt8 :=
  [0x00, 0x61, 0x73, 0x6d, 0x01, 0x00, 0x00, 0x00]

/-- The guests of modules in bytes. There is none for bytes that are no module. -/
abbrev Compiler := List UInt8 → Option Guest

/-- Takes the module without any part, and nothing else. -/
def Compiler.least : Compiler := fun content =>
  if content = emptyModule then some (.described bare) else none

def Image.compile (compiler : Compiler) : Image → Except Error Guest
  | .bytes content =>
      match compiler content with
      | some g => .ok g
      | none => .error (.engine .notCompiled)
  | .described description => .ok (.described description)

/-- What a compiled image is known by. -/
inductive ModuleKey where
  | digest (digest : List UInt8)
  | description (description : Description)
deriving DecidableEq

def Image.key : Image → ModuleKey
  | .bytes content => .digest (Digest.blake3 content)
  | .described description => .description description

end PolicyHost.Guest
