import Rota.Election.Basic
import Rota.Text.Quoted

/-!
The in-memory coordination service: sessions under leases, and the candidates of all elections
in the order of their first campaign. The first candidate of a key leads it.

Ending a session takes three steps that others may come between: its candidacies are withdrawn,
its end is signalled, and the change is announced.
-/

namespace Rota.Election

structure Candidate where
  key : String
  lease : Lease
  value : String
deriving DecidableEq, Repr

structure Coordinator where
  nextLease : Lease := 1
  live : List Lease := []
  ended : List Lease := []
  candidates : List Candidate := []
  failing : Nat := 0
  version : Nat := 0
deriving DecidableEq, Repr

namespace Coordinator

def injectedFailure : CoordinationError := .session "injected session failure"

def createSession (coordinator : Coordinator) : Except CoordinationError Lease × Coordinator :=
  match coordinator.failing with
  | failing + 1 => (.error injectedFailure, { coordinator with failing })
  | 0 =>
    let lease := coordinator.nextLease
    (.ok lease,
      { coordinator with nextLease := lease + 1, live := coordinator.live ++ [lease] })

def failNext (coordinator : Coordinator) (count : Nat) : Coordinator :=
  { coordinator with failing := count }

def hasEnded (coordinator : Coordinator) (lease : Lease) : Bool := coordinator.ended.contains lease

def isLive (coordinator : Coordinator) (lease : Lease) : Bool := coordinator.live.contains lease

/-- The candidates of one election, the leader first. -/
def queue (coordinator : Coordinator) (key : String) : List Candidate :=
  coordinator.candidates.filter (·.key == key)

def front? (coordinator : Coordinator) (key : String) : Option Candidate :=
  (coordinator.queue key).head?

def leader? (coordinator : Coordinator) (key : String) : Option String :=
  (coordinator.front? key).map Candidate.value

def leaderLease? (coordinator : Coordinator) (key : String) : Option Lease :=
  (coordinator.front? key).map Candidate.lease

def isFront (coordinator : Coordinator) (key : String) (lease : Lease) : Bool :=
  coordinator.leaderLease? key == some lease

/-- Adds a candidate behind all others, or gives one that is there already a new value. -/
def enlisted (candidate : Candidate) : List Candidate → List Candidate
  | [] => [candidate]
  | other :: others =>
    if other.key == candidate.key && other.lease == candidate.lease then candidate :: others
    else other :: enlisted candidate others

/-- Enters a session that has not ended into an election. -/
def enlist (coordinator : Coordinator) (key : String) (lease : Lease) (value : String) :
    Except CoordinationError Coordinator :=
  if coordinator.hasEnded lease then .error .sessionClosed
  else .ok { coordinator with candidates := enlisted { key, lease, value } coordinator.candidates }

def announce (coordinator : Coordinator) : Coordinator :=
  { coordinator with version := coordinator.version + 1 }

/-- Takes a session out of service together with its candidacies. -/
def withdraw (coordinator : Coordinator) (lease : Lease) : Coordinator :=
  { coordinator with
    live := coordinator.live.filter (· != lease)
    candidates := coordinator.candidates.filter (·.lease != lease) }

def signalEnd (coordinator : Coordinator) (lease : Lease) : Coordinator :=
  { coordinator with ended := lease :: coordinator.ended }

def endSession (coordinator : Coordinator) (lease : Lease) : Bool × Coordinator :=
  let withdrawn := coordinator.withdraw lease
  if coordinator.isLive lease then (true, (withdrawn.signalEnd lease).announce)
  else (false, withdrawn)

def sessionCount (coordinator : Coordinator) : Nat := coordinator.live.length

end Coordinator

/-- The coordination service for a list of endpoints. Only in-memory coordination is built in,
so endpoints are refused rather than ignored. -/
def connect (endpoints : List String) :
    Except CoordinationError Coordinator :=
  if endpoints.isEmpty then .ok {}
  else .error (.unavailable ("etcd endpoints " ++ Text.quotedList endpoints ++
    " configured but this build lacks the etcd feature"))

end Rota.Election
