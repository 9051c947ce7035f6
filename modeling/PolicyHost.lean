import PolicyHost.Main
import PolicyHost.Proofs.Service.Isolation
import PolicyHost.Proofs.Guest.Resolution
import PolicyHost.Service
import PolicyHost.Proofs.Session.Transport
import PolicyHost.Proofs.Session.Data
import PolicyHost.Proofs.Guest.Calls
import PolicyHost.Proofs.Session.Calls
import PolicyHost.Proofs.Session.Independence
import PolicyHost.Proofs.Session.Checkpoints
import PolicyHost.Proofs.Session.Strictness
import PolicyHost.Proofs.Json.Order
import PolicyHost.Proofs.Service.Recency
import PolicyHost.Proofs.Session.Failures
import PolicyHost.Proofs.Session.Unsent
import PolicyHost.Proofs.Json.Equality
import PolicyHost.Proofs.Builtin.Sorting
import PolicyHost.Proofs.Guest.Dispatch
import PolicyHost.Proofs.Session.Repetition
import PolicyHost.Proofs.Json.Integers
import PolicyHost.Proofs.Builtin.Totals
import PolicyHost.Proofs.Builtin.Splitting
import PolicyHost.Proofs.Builtin.Searching
import PolicyHost.Proofs.Builtin.Format
import PolicyHost.Proofs.Builtin.Decimals
import PolicyHost.Proofs.Builtin.Time
import PolicyHost.Proofs.Builtin.Arity
import PolicyHost.Proofs.Guest.Slots
import PolicyHost.Proofs.Guest.Reading
import PolicyHost.Proofs.Settings
import PolicyHost.Proofs.CommandLine.Output
