import Rota.Election.Coordinator
import Rota.Election.Elector

/-!
Clusters: electors that share one coordination service. An elector's move is one call of the
service, or one thing it notices, with the signal that follows. Moves of different electors may
come in any order; `settle` lets them move until none can.
-/

namespace Rota.Election

inductive Move where
  | open
  | resume
  | enter
  | win
  | refuse
  | seat
  | lose
  | heed
  | close
deriving DecidableEq, Repr

structure Faults where
  campaigns : Nat := 0
  closes : Nat := 0
  queries : Nat := 0
deriving DecidableEq, Repr

structure Cluster where
  coordinator : Coordinator := {}
  electors : List Elector := []
  faults : Faults := {}
  /-- The electors in the order in which they last went to pause. -/
  turns : List Nat := []
  /-- Whether calls of the service are recorded as events. -/
  recording : Bool := true

namespace Cluster

def ofElectors (electors : List Elector) : Cluster :=
  { electors, turns := List.range electors.length }

/-- The move that an elector makes next, if it can make one without waiting. Being told to stop
is noticed before the loss of the session, and that before all else. -/
def choice (cluster : Cluster) (now : Instant) (elector : Elector) : Option Move :=
  let lost (lease : Lease) : Bool := cluster.coordinator.hasEnded lease
  match elector.phase with
  | .idle => none
  | .opening => if elector.cancelled then some .heed else some .open
  | .openPause wake =>
    if elector.cancelled then some .heed else if wake ≤ now then some .resume else none
  | .campaigning lease =>
    if elector.cancelled then some .heed else if lost lease then some .lose else some .enter
  | .waiting lease =>
    if elector.cancelled then some .heed
    else if lost lease then some .lose
    else if cluster.coordinator.isFront elector.key lease then some .win
    else none
  | .campaignPause _ wake =>
    if elector.cancelled then some .heed else if wake ≤ now then some .resume else none
  | .elected _ => some .seat
  | .leading lease _ =>
    if elector.cancelled then some .heed else if lost lease then some .lose else none
  | .closing _ => some .close
  | .stopped => none

def injectedCampaign : CoordinationError := .campaign "injected campaign failure"

def injectedClose : CoordinationError := .unavailable "injected close failure"

def openSession (cluster : Cluster) (elector : Elector) : Cluster × Signal × List Event :=
  let (answer, coordinator) := cluster.coordinator.createSession
  let signal : Signal := match answer with
    | .ok lease => .sessionOpened lease
    | .error error => .sessionRefused error
  ({ cluster with coordinator }, signal, [.sessionAsked elector.settings.lifetime answer])

def enterCandidate (cluster : Cluster) (elector : Elector) (lease : Lease) :
    Cluster × Signal × List Event :=
  let event (fails : Bool) : Event := .campaigned lease elector.key elector.candidate fails
  match cluster.faults.campaigns with
  | campaigns + 1 =>
    ({ cluster with faults := { cluster.faults with campaigns } },
      .campaignRefused injectedCampaign, [event true])
  | 0 =>
    match cluster.coordinator.enlist elector.key lease elector.candidate with
    | .ok coordinator =>
      ({ cluster with coordinator := coordinator.announce }, .entered, [event false])
    | .error error => (cluster, .campaignRefused error, [event false])

/-- Closes a session; when that fails the session stays as it is. -/
def closeSession (cluster : Cluster) (lease : Lease) : Cluster × Signal × List Event :=
  match cluster.faults.closes with
  | closes + 1 =>
    ({ cluster with faults := { cluster.faults with closes } },
      .sessionClosed (some injectedClose), [.sessionClosed lease (some injectedClose)])
  | 0 =>
    ({ cluster with coordinator := (cluster.coordinator.endSession lease).2 },
      .sessionClosed none, [.sessionClosed lease none])

/-- What a move does to the service, and the signal that the elector then hears. Nothing comes
of a move that does not fit the elector's phase. -/
def act (cluster : Cluster) (now : Instant) (elector : Elector) (move : Move) :
    Option (Cluster × Signal × List Event) :=
  let lost (lease : Lease) : Bool := cluster.coordinator.hasEnded lease
  match move, elector.phase with
  | .open, .opening => some (cluster.openSession elector)
  | .resume, .openPause wake => if wake ≤ now then some (cluster, .pauseOver, []) else none
  | .resume, .campaignPause _ wake => if wake ≤ now then some (cluster, .pauseOver, []) else none
  | .enter, .campaigning lease => some (cluster.enterCandidate elector lease)
  | .win, .waiting lease =>
    if !lost lease && cluster.coordinator.isFront elector.key lease then some (cluster, .won, [])
    else none
  | .refuse, .waiting lease =>
    if lost lease then some (cluster, .campaignRefused .sessionClosed, []) else none
  | .seat, .elected _ => some (cluster, .seated, [])
  | .lose, .campaigning lease => if lost lease then some (cluster, .sessionLost, []) else none
  | .lose, .waiting lease => if lost lease then some (cluster, .sessionLost, []) else none
  | .lose, .leading lease _ => if lost lease then some (cluster, .sessionLost, []) else none
  | .heed, _ => if elector.cancelled then some (cluster, .cancelSeen, []) else none
  | .close, .closing lease => some (cluster.closeSession lease)
  | _, _ => none

/-- An elector that goes to pause takes its turn after all others. -/
def turned (turns : List Nat) (replica : Nat) (elector : Elector) : List Nat :=
  if elector.wake?.isSome then turns.filter (· != replica) ++ [replica] else turns

def perform? (cluster : Cluster) (now : Instant) (replica : Nat) (move : Move) :
    Option (Cluster × List Event × List Notice) := do
  let elector ← cluster.electors[replica]?
  let (acted, signal, events) ← cluster.act now elector move
  let moved := elector.hear now signal
  return ({ acted with
    electors := cluster.electors.set replica moved
    turns := turned cluster.turns replica moved },
    if cluster.recording then events else [], (elector.report signal).toList)

def nextMove (cluster : Cluster) (now : Instant) : Option (Nat × Move) :=
  cluster.turns.findSome? fun replica => do
    let elector ← cluster.electors[replica]?
    let move ← cluster.choice now elector
    return (replica, move)

def distance : Phase → Nat
  | .idle => 0
  | .stopped => 0
  | .closing _ => 2
  | .leading _ _ => 3
  | .elected _ => 4
  | .waiting _ => 5
  | .campaigning _ => 6
  | .campaignPause _ _ => 7
  | .opening => 8
  | .openPause _ => 9

/-- An elector's share of the moves that can still follow: those of its phase, and those that
the loss of its session adds. -/
def share (cluster : Cluster) (elector : Elector) : Nat :=
  let lost (lease : Lease) : Nat := if cluster.coordinator.hasEnded lease then 10 else 0
  distance elector.phase + match elector.phase with
    | .campaigning lease => lost lease
    | .waiting lease => lost lease
    | .campaignPause lease _ => lost lease
    | .elected lease => lost lease
    | .leading lease _ => lost lease
    | _ => 0

/-- An upper bound for the moves that can follow at one instant. Each move lowers it. -/
def potential (cluster : Cluster) : Nat :=
  (cluster.electors.map cluster.share).foldr (· + ·) 0 +
    20 * (cluster.coordinator.failing + cluster.faults.campaigns)

def drain (now : Instant) : Nat → Cluster × Journal → Cluster × Journal
  | 0, current => current
  | fuel + 1, (cluster, journal) =>
    match cluster.nextMove now with
    | none => (cluster, journal)
    | some (replica, move) =>
      match cluster.perform? now replica move with
      | none => (cluster, journal)
      | some (cluster, events, notices) =>
        let journal := events.foldl (fun journal event => journal.record now event) journal
        drain now fuel (cluster, journal.noteAll now notices)

def settle (now : Instant) (cluster : Cluster) (journal : Journal) : Cluster × Journal :=
  drain now cluster.potential (cluster, journal)

def nextWake (cluster : Cluster) : Option Instant :=
  (cluster.electors.filterMap Elector.wake?).min?

/-! What comes from outside. -/

def elector? (cluster : Cluster) (replica : Nat) : Option Elector := cluster.electors[replica]?

def modifyElector (cluster : Cluster) (replica : Nat) (change : Elector → Elector) : Cluster :=
  { cluster with electors := cluster.electors.modify replica change }

/-- Starts an elector, and says whether it had not been started before. -/
def start (cluster : Cluster) (now : Instant) (replica : Nat) : Bool × Cluster :=
  match cluster.elector? replica with
  | none => (false, cluster)
  | some elector =>
    (!elector.hasStarted, cluster.modifyElector replica (·.hear now .started))

def cancel (cluster : Cluster) (replica : Nat) : Cluster :=
  cluster.modifyElector replica fun elector => { elector with cancelled := true }

/-- Ends a session as if its lease had run out. -/
def expire (cluster : Cluster) (lease : Lease) : Bool × Cluster :=
  let (live, coordinator) := cluster.coordinator.endSession lease
  (live, { cluster with coordinator })

def expireLeader (cluster : Cluster) (key : String) : Option (Lease × Bool) × Cluster :=
  match cluster.coordinator.leaderLease? key with
  | none => (none, cluster)
  | some lease =>
    let (live, cluster) := cluster.expire lease
    (some (lease, live), cluster)

def failSessions (cluster : Cluster) (count : Nat) : Cluster :=
  { cluster with coordinator := cluster.coordinator.failNext count }

def failCampaigns (cluster : Cluster) (count : Nat) : Cluster :=
  { cluster with faults := { cluster.faults with campaigns := count } }

def failCloses (cluster : Cluster) (count : Nat) : Cluster :=
  { cluster with faults := { cluster.faults with closes := count } }

def failQueries (cluster : Cluster) (count : Nat) : Cluster :=
  { cluster with faults := { cluster.faults with queries := count } }

/-- Asks the service who leads an elector's election; a failed query names no one. -/
def queryLeader (cluster : Cluster) (replica : Nat) : Option String × Cluster :=
  match cluster.faults.queries with
  | queries + 1 => (none, { cluster with faults := { cluster.faults with queries } })
  | 0 =>
    let leader := (cluster.elector? replica).bind fun elector =>
      cluster.coordinator.leader? elector.key
    (leader, cluster)

def isLeader (cluster : Cluster) (replica : Nat) : Bool :=
  (cluster.elector? replica).any Elector.isLeader

end Cluster

end Rota.Election
