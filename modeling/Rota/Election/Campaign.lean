import Rota.Election.Coordinator

/-!
Campaign calls: sessions that wait to lead an election. A call enters its candidate, announces
that, and then looks at the front of the queue again after every change announced since it last
looked.
-/

namespace Rota.Election

inductive CallPhase where
  | entering
  | announcing
  | subscribing
  | checking (seen : Nat)
  | parked (seen : Nat)
  | won
  | failed (error : CoordinationError)
deriving DecidableEq, Repr

structure Call where
  key : String
  lease : Lease
  value : String
  phase : CallPhase := .entering
deriving DecidableEq, Repr

namespace Call

def step? (coordinator : Coordinator) (call : Call) : Option (Coordinator × Call) :=
  let move (phase : CallPhase) : Call := { call with phase }
  match call.phase with
  | .entering =>
    match coordinator.enlist call.key call.lease call.value with
    | .ok coordinator => some (coordinator, move .announcing)
    | .error error => some (coordinator, move (.failed error))
  | .announcing => some (coordinator.announce, move .subscribing)
  | .subscribing => some (coordinator, move (.checking coordinator.version))
  | .checking seen =>
    if coordinator.hasEnded call.lease then some (coordinator, move (.failed .sessionClosed))
    else if coordinator.isFront call.key call.lease then some (coordinator, move .won)
    else some (coordinator, move (.parked seen))
  | .parked seen =>
    if coordinator.version != seen then some (coordinator, move (.checking coordinator.version))
    else if coordinator.hasEnded call.lease then some (coordinator, move (.failed .sessionClosed))
    else none
  | .won => none
  | .failed _ => none

/-- Takes steps until the call waits or is over; five are always enough. -/
def run (coordinator : Coordinator) (call : Call) : Nat → Coordinator × Call
  | 0 => (coordinator, call)
  | fuel + 1 =>
    match call.step? coordinator with
    | none => (coordinator, call)
    | some (coordinator, call) => run coordinator call fuel

def isPending (call : Call) : Bool :=
  match call.phase with
  | .won => false
  | .failed _ => false
  | _ => true

end Call

structure Contest where
  coordinator : Coordinator := {}
  calls : List (String × Call) := []

namespace Contest

def settle (contest : Contest) : Contest :=
  let step (current : Coordinator × List (String × Call)) (named : String × Call) :
      Coordinator × List (String × Call) :=
    let (coordinator, call) := named.2.run current.1 5
    (coordinator, current.2 ++ [(named.1, call)])
  let once (contest : Contest) : Contest :=
    let (coordinator, calls) := contest.calls.foldl step (contest.coordinator, [])
    { coordinator, calls }
  once (once contest)

def campaign (contest : Contest) (name : String) (call : Call) : Contest :=
  { contest with calls := contest.calls.filter (·.1 != name) ++ [(name, call)] }

end Contest

end Rota.Election
