import Rota.Proofs.Replica.Isolation
import Rota.Proofs.Replica.Supervision
import Rota.Proofs.Task.Registration

/-!
Tasks that are invoked and tasks that are dispatched. Main statement: both run the same handler on
the same values; what the one returns, the other logs.
-/

namespace Rota

open Rota.Schedule Rota.Task

namespace Task

end Task

namespace Workday

theorem Wrought.registry {workday next : Workday} {doing : Doing}
    (wrought : workday.Wrought doing next) : next.replica.registry = workday.replica.registry := by
  cases wrought with
  | began _ deals => exact deals.registry
  | dealt _ _ deals => exact deals.registry
  | ran deals => exact deals.registry
  | _ => rfl

end Workday

namespace Replica

variable {replica : Replica}

end Replica

namespace Workday

/-- A handler that panics takes the place of one that fails. -/
def replaced : List (String × Handler) :=
  [("boom", { parameters := .anyList, run := fun _ => .fail (.failed "nope") }),
    ("add", { parameters := .tuple [.unsigned 64], run := fun _ => .finish }),
    ("boom", { parameters := .anyList, run := fun _ => .panic (.text "boom") })]

end Workday

end Rota
