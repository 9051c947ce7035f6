/-!
# Command lines

A command line is a list of words. Options take a value, which follows an
equals sign, stands in the same word after a short name, or is the next word;
switches take none, and short names of switches can share a word. Words are
read from left to right, and the first fault decides what is reported.

An option is settled only when the next option or switch is read, or at the
end: a repetition or an improper value of it is found then, and a word that is
no option at all is reported before that.
-/

namespace PolicyHost.CommandLine

/-- The options that take a value. -/
inductive ValueOption where
  | policy
  | data
  | input
  | entrypoint
  | config
deriving DecidableEq

/-- Whether the value of an option is a path, which cannot be empty. -/
def ValueOption.isPath : ValueOption → Bool
  | .policy | .config => true
  | .data | .input | .entrypoint => false

inductive Switch where
  | bool
  | list
  | verbose
deriving DecidableEq

inductive Meaning where
  | value (o : ValueOption)
  | switch (s : Switch)
  | help
  | version

def longNames : List (String × Meaning) :=
  [("policy", .value .policy), ("data", .value .data), ("input", .value .input),
   ("entrypoint", .value .entrypoint), ("bool", .switch .bool), ("config", .value .config),
   ("list", .switch .list), ("verbose", .switch .verbose), ("help", .help), ("version", .version)]

def shortNames : List (Char × Meaning) :=
  [('p', .value .policy), ('d', .value .data), ('i', .value .input), ('e', .value .entrypoint),
   ('c', .value .config), ('v', .switch .verbose), ('h', .help), ('V', .version)]

/-- Why a command line is not carried out. -/
inductive Usage where
  /-- A word is no option, switch or value. -/
  | unknownArgument
  /-- Options exclude each other, or one is repeated. -/
  | argumentConflict
  | missingRequiredArgument
  /-- A value is missing or not proper. -/
  | invalidValue
  | tooManyValues
  | displayHelp
  | displayVersion
deriving DecidableEq

/-- What was read so far. -/
structure Progress where
  /-- The options that are settled, with their values. -/
  values : List (ValueOption × String) := []
  switches : List Switch := []
  /-- The option that is not settled yet, with its value once it is read. -/
  pending : Option (ValueOption × Option String) := none

namespace Progress

def value? (p : Progress) (o : ValueOption) : Option String :=
  p.values.lookup o

/-- Settles the pending option: it has a value, was not given before, and the
value is proper. -/
def settle (p : Progress) : Except Usage Progress :=
  match p.pending with
  | none => .ok p
  | some (_, none) => .error .invalidValue
  | some (o, some v) =>
      if (p.value? o).isSome then .error .argumentConflict
      else if o.isPath ∧ v = "" then .error .invalidValue
      else .ok { p with values := (o, v) :: p.values, pending := none }

/-- Takes up an option, with its value if that is in the same word. -/
def take (o : ValueOption) (value : Option String) (p : Progress) : Except Usage Progress := do
  let p ← p.settle
  let p := { p with pending := some (o, value) }
  -- An option with its value in the same word is settled at once.
  if value.isSome then p.settle else return p

/-- Turns a switch on, which can be done once. -/
def turnOn (s : Switch) (p : Progress) : Except Usage Progress := do
  let p ← p.settle
  if s ∈ p.switches then throw .argumentConflict
  return { p with switches := s :: p.switches }

def leave (what : Usage) (p : Progress) : Except Usage Progress := do
  let _ ← p.settle
  throw what

end Progress

def cutAtEquals (cs : List Char) : String × Option String :=
  let name := cs.takeWhile (· ≠ '=')
  match cs.dropWhile (· ≠ '=') with
  | [] => (String.ofList name, none)
  | _ :: value => (String.ofList name, some (String.ofList value))

/-- Reads a word with a long name, its dashes taken off. -/
def readLong (cs : List Char) (p : Progress) : Except Usage Progress :=
  let (name, value) := cutAtEquals cs
  match longNames.lookup name, value with
  | none, _ => .error .unknownArgument
  | some (.value o), value => p.take o value
  | some _, some _ => .error .tooManyValues
  | some (.switch s), none => p.turnOn s
  | some .help, none => p.leave .displayHelp
  | some .version, none => p.leave .displayVersion

/-- The value that stands behind a short name in its word; an equals sign in
front of it is not part of it. -/
def attached : List Char → Option String
  | [] => none
  | '=' :: cs => some (String.ofList cs)
  | cs => some (String.ofList cs)

/-- Reads a word with short names, its dash taken off. -/
def readShort : List Char → Progress → Except Usage Progress
  | [], p => .ok p
  | c :: cs, p =>
      match shortNames.lookup c with
      | none => .error .unknownArgument
      | some (.value o) => p.take o (attached cs)
      | some (.switch s) => (p.turnOn s).bind (readShort cs)
      | some .help => p.leave .displayHelp
      | some .version => p.leave .displayVersion

/-- Reads a word that is no name: the value that an option waits for, if one
does. -/
def readPlain (word : String) (p : Progress) : Except Usage Progress :=
  match p.pending with
  | some (o, none) => .ok { p with pending := some (o, some word) }
  | _ => .error .unknownArgument

/-- Reads words in order. Two dashes alone end the options, and nothing may
follow them. -/
def readWords : List String → Progress → Except Usage Progress
  | [], p => .ok p
  | word :: words, p =>
      match word.toList with
      | ['-', '-'] => if words = [] then .ok p else .error .unknownArgument
      | '-' :: '-' :: name => (readLong name p).bind (readWords words)
      | '-' :: c :: cs => (readShort (c :: cs) p).bind (readWords words)
      | _ => (readPlain word p).bind (readWords words)

/-- What the command line asks for. -/
structure Options where
  policy : String
  data : Option String := none
  input : Option String := none
  entrypoint : Option String := none
  config : Option String := none
  /-- Whether to say only if the policy says yes. -/
  asBool : Bool := false
  /-- Whether to list the tables of the policy instead of evaluating. -/
  list : Bool := false
  verbose : Bool := false

/-- The options of a whole command line. Listing excludes what only concerns
evaluating. -/
def Progress.finish (p : Progress) : Except Usage Options := do
  let p ← p.settle
  let on (s : Switch) : Bool := s ∈ p.switches
  if on .list ∧ ((p.value? .input).isSome ∨ (p.value? .entrypoint).isSome ∨ on .bool) then
    throw .argumentConflict
  match p.value? .policy with
  | none => throw .missingRequiredArgument
  | some policy =>
      return {
        policy
        data := p.value? .data
        input := p.value? .input
        entrypoint := p.value? .entrypoint
        config := p.value? .config
        asBool := on .bool
        list := on .list
        verbose := on .verbose }

def Options.ofWords (words : List String) : Except Usage Options := do
  (← readWords words {}).finish

end PolicyHost.CommandLine
