import PolicyHost.Guest.Image
import PolicyHost.ModuleCache
import PolicyHost.Session

/-!
# The engine

An engine has one compiler, one configuration and one registry for all its
guests. It compiles images and keeps what it compiled, so that the same image is
compiled once, and it starts sessions.
-/

namespace PolicyHost

open Guest

/-- What compiles images and starts sessions. -/
structure Engine where
  compiler : Compiler
  config : Config
  registry : Builtin.Registry
  cache : ModuleCache ModuleKey Guest

namespace Engine

def create (compiler : Compiler) (config : Config) (registry : Builtin.Registry) :
    Except Error Engine := do
  config.validate
  return { compiler, config, registry, cache := .withCapacity config.cacheCapacity.toNat }

/-- The guest of an image, compiled unless it is in the cache. -/
def compile (image : Image) (e : Engine) : Except Error Guest × Engine :=
  match e.cache.get image.key with
  | (some g, cache) => (.ok g, { e with cache })
  | (none, cache) =>
      match image.compile e.compiler with
      | .ok g => (.ok g, { e with cache := cache.insert image.key g })
      | .error fault => (.error fault, { e with cache })

/-- Starts a session with the guest of an image, and gives the lines that the
guest printed meanwhile. -/
def load (image : Image) (e : Engine) : (Except Error Session × List String) × Engine :=
  match e.compile image with
  | (.error fault, e) => ((.error fault, []), e)
  | (.ok g, e) => (Session.launch g e.config e.registry, e)

def clearCache (e : Engine) : Engine :=
  { e with cache := e.cache.clear }

end Engine

end PolicyHost
