import Rota.Resource.Guard

/-!
The lifecycle of one resource under a sequence of operations. A cursor starts at the status of
the snapshot and follows the operations that were accepted; nothing is stored.
-/

namespace Rota.Resource

structure Lifecycle where
  resource : Snapshot
  current : Status
  guard : Guard
deriving DecidableEq, Repr

namespace Lifecycle

def ofSnapshot (resource : Snapshot) : Lifecycle :=
  { resource, current := resource.status, guard := .permissive }

def withGuard (lifecycle : Lifecycle) (guard : Guard) : Lifecycle := { lifecycle with guard }

/-- Where an operation would lead. Updating a draft of a new or edited resource stays where it
is; that is judged by the cursor, and the guard by the snapshot. -/
def resolve (lifecycle : Lifecycle) (operation : Operation) : Except StatusError Status := do
  lifecycle.guard.check lifecycle.resource
  let editable := lifecycle.current = .createDraft || lifecycle.current = .updateDraft
  if operation = .update && editable then return lifecycle.current
  match target? lifecycle.current operation with
  | some target => return target
  | none => throw (.illegalTransition lifecycle.current operation)

def canDo (lifecycle : Lifecycle) (operation : Operation) : Except StatusError Unit :=
  (lifecycle.resolve operation).map fun _ => ()

def nextStatus (lifecycle : Lifecycle) (operation : Operation) :
    Except StatusError Status × Lifecycle :=
  match lifecycle.resolve operation with
  | .ok target => (.ok target, { lifecycle with current := target })
  | .error error => (.error error, lifecycle)

end Lifecycle

end Rota.Resource
