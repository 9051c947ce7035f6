import PolicyHost.Engine

/-!
# Serving named sessions

A service is an engine with any number of sessions, each under a name. It
serves one request after the other. A request names a session or concerns the
engine only, and the reply shows what became of it, what its guest printed
meanwhile, and how the session looks afterwards.
-/

namespace PolicyHost

open Json Guest

/-- An engine with sessions. -/
structure Service where
  engine : Engine
  sessions : Keyed String Session := []

namespace Service

inductive Request where
  /-- Start a session in place of the one of the name. -/
  | load (image : Image)
  | operate (operation : Session.Operation)
  | look
  | tables
  | compile (image : Image)
  | cache
  /-- Forget what was compiled, and show the cache. -/
  | clearCache
  /-- Show the configuration and the number of builtins. -/
  | info

/-- Whether a request is about the session of its name, and not about the engine only. -/
def Request.concernsSession : Request → Bool
  | .load _ | .operate _ | .look | .tables => true
  | .compile _ | .cache | .clearCache | .info => false

/-- What became of a request. -/
inductive Outcome where
  | result (r : Except Error Value)
  | noSession
  /-- There is nothing to say. -/
  | nothing
  | tables (builtins : Option BuiltinTable) (entrypoints : Keyed String EntrypointId)
  | cache (cache : ModuleCache ModuleKey Guest)
  | info (config : Config) (builtins : Nat)

structure Reply where
  outcome : Outcome
  /-- The lines that the guest printed, in order. -/
  printed : List String := []
  /-- How the session looks now that the request is about, if there is one. -/
  status : Option Session.Status

def session? (name : String) (s : Service) : Option Session :=
  s.sessions.get? name

/-- Starts a session in place of the one of a name, which goes first. -/
def load (name : String) (image : Image) (s : Service) : Outcome × List String × Service :=
  let sessions := s.sessions.erase name
  -- The old session is gone even if no new one starts.
  match s.engine.load image with
  | ((.ok session, printed), engine) =>
      (.result (.ok .null), printed, ⟨engine, sessions.insert name session⟩)
  | ((.error e, printed), engine) => (.result (.error e), printed, ⟨engine, sessions⟩)

def operate (name : String) (operation : Session.Operation) (s : Service) :
    Outcome × List String × Service :=
  match s.session? name with
  | none => (.noSession, [], s)
  | some session =>
      let (result, session) := (Session.perform operation).run session
      let (printed, session) := session.takePrinted
      (.result result, printed, { s with sessions := s.sessions.insert name session })

/-- Serves a request on the session of a name. -/
def respond (name : String) (request : Request) (s : Service) : Outcome × List String × Service :=
  match request with
  | .load image => s.load name image
  | .operate operation => s.operate name operation
  | .look => (if (s.session? name).isSome then .nothing else .noSession, [], s)
  | .tables =>
      match s.session? name with
      | none => (.noSession, [], s)
      | some session => (.tables session.services.table session.entrypoints, [], s)
  | .compile image =>
      let (result, engine) := s.engine.compile image
      (.result (result.map fun _ => .null), [], { s with engine })
  | .cache => (.cache s.engine.cache, [], s)
  | .clearCache =>
      let engine := s.engine.clearCache
      (.cache engine.cache, [], { s with engine })
  | .info => (.info s.engine.config s.engine.registry.size, [], s)

/-- Shows the session of a name, whose guest is asked for its heap pointer. -/
def observe (name : String) (s : Service) : Option Session.Status × Service :=
  match s.session? name with
  | none => (none, s)
  | some session =>
      let (status, session) := session.look
      (some status, { s with sessions := s.sessions.insert name session })

/-- Serves a request, and shows the session that it is about afterwards. -/
def serve (name : String) (request : Request) (s : Service) : Reply × Service :=
  let (outcome, printed, s) := s.respond name request
  if request.concernsSession then
    let (status, s) := s.observe name
    ({ outcome, printed, status }, s)
  else ({ outcome, printed, status := none }, s)

end Service

end PolicyHost
