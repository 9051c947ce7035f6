import PolicyHost.Guest.Instance

/-!
# Sessions

A session is one guest with data of its own. Its heap has two checkpoints:
`base`, after the empty object of a new session, and `checkpoint`, after the
present data. Setting data starts again from `base`, every evaluation and every
path update starts again from `checkpoint`, so nothing that an evaluation
leaves on the heap lasts.

An evaluation that the guest stopped, and data that it stopped on, leave the
session tainted until data is set again.
-/

namespace PolicyHost

open Json Guest

/-- A value that a caller passes, which need not have a JSON text. -/
inductive Payload where
  | json (v : Value)
  | unencodable

def Payload.value : Payload → Except Error Value
  | .json v => .ok v
  | .unencodable => .error (.transfer .unencodable)

def Payload.encode : Payload → Except Error (List UInt8)
  | .json v => .ok (Guest.encode v)
  | .unencodable => .error (.transfer .unencodable)

/-- One guest with data of its own. -/
structure Session where
  guest : Guest
  services : Services
  entrypoints : Keyed String EntrypointId
  /-- The fuel that every operation has. -/
  maxFuel : Option UInt64
  store : Store
  /-- The data, as a value of the guest. -/
  data : UInt32
  /-- The heap pointer after the first empty object. -/
  base : UInt32
  /-- The heap pointer after the data. -/
  checkpoint : UInt32
  /-- Whether the heap may be in disorder. -/
  tainted : Bool

namespace Session

/-- Work on a session, which gives a result or an error. -/
abbrev Act := ExceptT Error (StateM Session)

/-- The host that the guest has. -/
def host (s : Session) : Host :=
  s.guest.host s.services

/-- Does something with the guest and its host. -/
def onGuest {α : Type} (work : Guest → Host → Run α) : Act α := ExceptT.mk fun s =>
  let (result, store) := (work s.guest s.host).run s.store
  (result, { s with store })

/-- Does something and gives its result or its error. When the host goes down
nothing is given any more. -/
def attempt {α : Type} (work : Act α) : Act (Except Error α) := ExceptT.mk fun s =>
  match work.run s with
  | (.error (.crashed text), s) => (.error (.crashed text), s)
  | (result, s) => (.ok result, s)

/-- Gives the guest its fuel. -/
def refuel : Act Unit :=
  modify fun s => { s with store := { s.store with fuel := s.maxFuel } }

def heapPointer : Act UInt32 :=
  onGuest fun g host => g.getHeap.invoke host

def setHeap (a : UInt32) : Act Unit :=
  onGuest fun g host => (g.setHeap a).invoke host

/-- Gives the guest its fuel, and moves the heap pointer back to a place. -/
def rewind (place : Session → UInt32) : Act Unit := do
  refuel
  setHeap (place (← get))

/-- The session of a guest that was started, with the empty object as data. -/
def ofTables (g : Guest) (config : Config) (tables : Tables) (store : Store) : Session where
  guest := g
  services := ⟨some tables.builtins, config.strict⟩
  entrypoints := tables.entrypoints
  maxFuel := config.maxFuel
  store
  data := 0
  base := 0
  checkpoint := 0
  tainted := false

/-- Takes the lines that the guest printed, in order. -/
def takePrinted (s : Session) : List String × Session :=
  (s.store.printed.reverse, { s with store := { s.store with printed := [] } })

/-- Loads the first empty object and sets both checkpoints behind it. -/
def prepare : Act Unit := do
  refuel
  let data ← onGuest fun g host => load g host (.object [])
  let base ← heapPointer
  modify fun s => { s with data, base, checkpoint := base }

/-- Starts a session, and gives the lines that the guest printed meanwhile. -/
def launch (g : Guest) (config : Config) (registry : Builtin.Registry) :
    Except Error Session × List String :=
  match (g.instantiate config registry).run (g.initialStore config) with
  | (.error e, store) => (.error e, store.printed.reverse)
  | (.ok tables, store) =>
      let (result, s) := prepare.run (ofTables g config tables store)
      let (printed, s) := s.takePrinted
      (result.map fun () => s, printed)

/-- Makes a new empty object the data. The first one is not used again. -/
def loadEmpty : Act Unit := do
  setHeap (← get).base
  let data ← onGuest fun g host => load g host (.object [])
  modify fun s => { s with data }
  let checkpoint ← heapPointer
  modify fun s => { s with checkpoint }

/-- Sets the data. When the guest does not take it, the data becomes the empty
object and the failure is reported. -/
def setData (p : Payload) : Act Unit := do
  let v ← p.value
  rewind (·.base)
  match ← attempt (onGuest fun g host => load g host v) with
  | .ok data =>
      modify fun s => { s with data }
      let checkpoint ← heapPointer
      modify fun s => { s with checkpoint, tainted := false }
  | .error e =>
      modify fun s => { s with tainted := e.taints }
      match ← attempt loadEmpty with
      | .ok () => pure ()
      -- The heap may have been written over where the old data stood.
      | .error _ => modify fun s => { s with tainted := true }
      throw e

inductive Target where
  /-- What the policy evaluates unless told otherwise. -/
  | main
  | named (name : String)
  | numbered (id : EntrypointId)

/-- The id of what to evaluate, if it takes one to choose it. -/
def Target.id? (s : Session) : Target → Except Error (Option EntrypointId)
  | .main => .ok none
  | .named name =>
      match s.entrypoints.get? name with
      | some id => .ok (some id)
      | none => .error (.config (.unknownEntrypoint name))
  | .numbered id => .ok (some id)

/-- Whether the guest offers an operation that it may leave out. -/
def demand (g : Guest) (e : Export) : Except Error Unit :=
  if e ∈ g.absent then .error (.missingExport e.name .unsupported) else .ok ()

/-- Evaluates with the text of an input: makes a context, fills it, runs the
guest and brings the result out. -/
def evaluateText (data : UInt32) (id : Option EntrypointId) (bytes : List UInt8) (g : Guest)
    (host : Host) : Run Value := do
  let input ← loadText g host bytes
  let context ← g.makeContext.invoke host
  (g.setInput context input).invoke host
  (g.setData context data).invoke host
  -- Without an id the context keeps its zero, which chooses the first program.
  if let some id := id then
    demand g .setEntrypoint
    (g.setEntrypoint context id.value).invoke host
  let code ← (g.eval context).invoke host
  if code ≠ 0 then stop (.evaluationCode code)
  let result ← (g.getResult context).invoke host
  dump g host result

def evaluate (target : Target) (input : Payload) : Act Value := do
  let id ← target.id? (← get)
  let bytes ← input.encode
  -- What the evaluation before left behind the data is given up.
  rewind (·.checkpoint)
  let s ← get
  match ← attempt (onGuest (evaluateText s.data id bytes)) with
  | .ok v => return v
  | .error e =>
      if e.taints then modify fun s => { s with tainted := true }
      throw e

/-- Whether a result set says yes: it has one result, which is `true`. -/
def holds : Value → Bool
  | .array [v] =>
      match v.get? "result" with
      | some (.bool b) => b
      | _ => false
  | _ => false

/-- Updates a path of the data. `apply` calls the guest with the data and the
path; when it answers with a code the heap pointer goes back to where it was. -/
def update (path : List String) (apply : (data path : UInt32) → Guest → Host → Run Int) :
    Act Unit := do
  rewind (·.checkpoint)
  let place ← onGuest fun g host => load g host (.array (path.map .string))
  let code ← onGuest (apply (← get).data place)
  -- Only a code takes the heap pointer back. After a stop it stays until the next operation.
  if code ≠ 0 then
    setHeap (← get).checkpoint
    throw (.trap (.updateCode code))
  let checkpoint ← heapPointer
  modify fun s => { s with checkpoint }

def addPath (path : List String) (p : Payload) : Act Unit := do
  demand (← get).guest .addPath
  let bytes ← p.encode
  update path fun data place g host => do
    let value ← loadText g host bytes
    (g.addPath data place value).invoke host

def removePath (path : List String) : Act Unit := do
  demand (← get).guest .removePath
  update path fun data place g host => (g.removePath data place).invoke host

inductive Operation where
  | setData (p : Payload)
  | evaluate (target : Target) (input : Payload)
  /-- Evaluates and asks whether the result set says yes. -/
  | decide (input : Payload)
  | addPath (path : List String) (p : Payload)
  | removePath (path : List String)

/-- Performs an operation. One that gives nothing gives null. -/
def perform : Operation → Act Value
  | .setData p => do
      setData p
      return .null
  | .evaluate target input => evaluate target input
  | .decide input => do return .bool (holds (← evaluate .main input))
  | .addPath path p => do
      addPath path p
      return .null
  | .removePath path => do
      removePath path
      return .null

/-- What can be seen of a session between operations. -/
structure Status where
  base : Address
  checkpoint : Address
  /-- The heap pointer, which the guest has to be asked for. -/
  heap : Except Error Address
  tainted : Bool
  /-- The most bytes of memory that the guest has had. -/
  peak : Nat

/-- Looks at a session, and gives what is seen and the session after the guest
was asked. -/
def look (s : Session) : Status × Session :=
  let (heap, t) := heapPointer.run s
  let status : Status := {
    base := ⟨s.base⟩, checkpoint := ⟨s.checkpoint⟩, heap := heap.map (⟨·⟩),
    tainted := s.tainted, peak := t.store.peak }
  (status, t)

end Session

end PolicyHost
