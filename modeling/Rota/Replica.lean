import Rota.Cron.Mechanism
import Rota.Election.Cluster
import Rota.Task.Crew

/-!
Replicas: one process of the gateway's control plane, with a roster of periodic tasks, a store,
a registry, work under way, and an elector in a cluster. Time moves only when it is told to;
at every instant all that can happen happens before the next one.
-/

namespace Rota

open Rota.Election Rota.Schedule Rota.Task

structure Replica where
  origin : Wall := 0
  offset : Calendar.Offset := 0
  now : Instant := 0
  roster : Roster Cron.Pattern := {}
  store : Store := {}
  registry : Registry := {}
  cluster : Cluster := {}
  crew : Crew := {}
  journal : Journal := {}
  /-- Reloads whose read is held back, with their tickets and what was read. -/
  held : List (String × Nat × Except Error (List Definition)) := []

namespace Replica

def self : Nat := 0

def wall (replica : Replica) : Wall := replica.origin + replica.now

def mechanism (replica : Replica) : Mechanism Cron.Pattern Duty := Cron.mechanism replica.offset

def engine (replica : Replica) : Engine Cron.Pattern Duty := replica.roster.engine

def withEngine (replica : Replica) (engine : Engine Cron.Pattern Duty) : Replica :=
  { replica with roster := { replica.roster with engine } }

def note (replica : Replica) (notice : Notice) : Replica :=
  { replica with journal := replica.journal.note replica.now notice }

def noteAll (replica : Replica) (notices : List Notice) : Replica :=
  { replica with journal := replica.journal.noteAll replica.now notices }

def isLeader (replica : Replica) : Bool := replica.cluster.isLeader self

/-! Work. -/

def assign (replica : Replica) (assignment : Assignment) : Nat × Replica :=
  let (id, crew, engine, journal) :=
    replica.crew.start Engine.remove replica.now assignment replica.engine replica.journal
  (id, { replica.withEngine engine with crew, journal })

/-- Dispatches a task that nobody waits for, and returns its number if the task is known. -/
def dispatch (replica : Replica) (task : String) (values : List Json) : Option Nat × Replica :=
  match replica.registry.dispatch task values with
  | .error notice => (none, replica.note notice)
  | .ok assignment =>
    let (id, replica) := replica.assign assignment
    (some id, replica)

def wakeCrew (replica : Replica) : Replica :=
  let (crew, engine, journal) :=
    replica.crew.wake Engine.remove replica.now replica.engine replica.journal
  { replica.withEngine engine with crew, journal }

/-! Reloads. -/

def readDefinitions (replica : Replica) : (Nat × Except Error (List Definition)) × Replica :=
  let (ticket, roster) := replica.roster.beginReload
  let (read, store) := replica.store.findAll
  ((ticket, read), { replica with roster, store })

/-- Applies what was read under a ticket; a failed read changes nothing. -/
def applyDefinitions (replica : Replica) (ticket : Nat) (read : Except Error (List Definition)) :
    Except Error Summary × Replica :=
  match read with
  | .error error => (.error error, replica)
  | .ok definitions =>
    let progress :=
      replica.roster.applyReload replica.mechanism replica.wall ticket definitions
    (.ok progress.summary,
      { replica with roster := progress.roster }.noteAll progress.notices)

def reload (replica : Replica) : Except Error Summary × Replica :=
  let ((ticket, read), replica) := replica.readDefinitions
  replica.applyDefinitions ticket read

/-! Duties of the engine. -/

def reloadLogged (replica : Replica) (notice : String → Notice) : Replica :=
  match replica.reload with
  | (.ok _, replica) => replica
  | (.error error, replica) => replica.note (notice error.message)

def perform (replica : Replica) (firing : Firing Duty) : Replica :=
  match firing.duty with
  | .reload => replica.reloadLogged .reloadFailed
  | .task definition =>
    match definition.verdict replica.roster.gated replica.isLeader with
    | .skipped => replica
    | .unreadable notice => replica.note notice
    | .dispatched task values => (replica.dispatch task values).2
  | .work (.ok work) => (replica.assign { name := "cron:" ++ firing.name, work }).2
  | .work (.error _) => replica

/-- Lets the run loops go on until they rest, and starts the duties of what they fire. -/
def settleEngine (replica : Replica) : Replica :=
  let (engine, pass) := replica.engine.settle replica.mechanism replica.wall
  pass.started.foldl perform ((replica.withEngine engine).noteAll pass.notices)

def settleCluster (replica : Replica) : Replica :=
  let (cluster, journal) := replica.cluster.settle replica.now replica.journal
  { replica with cluster, journal }

/-- Lets everything happen that can at this instant. The duties started in the first round may
change the timetable and so wake a loop once more, but by then nothing is due. -/
def settle (replica : Replica) : Replica :=
  replica.settleCluster.settleEngine.settleEngine

/-! Time. -/

def instantOf (replica : Replica) (wall : Wall) : Instant := (wall - replica.origin).toNat

def nextWake (replica : Replica) : Option Instant :=
  let wakes := [replica.cluster.nextWake, replica.crew.nextWake,
    replica.engine.nextWake.map replica.instantOf]
  (wakes.filterMap id).min?

def settleAt (replica : Replica) (instant : Instant) : Replica :=
  { replica with now := instant }.wakeCrew.settle

def runBetween (replica : Replica) (now target : Instant) : Replica :=
  match replica.nextWake with
  | none => { replica with now := target }
  | some wake =>
    if _reached : max wake (now + 1) ≤ target then
      (replica.settleAt (max wake (now + 1))).runBetween (max wake (now + 1)) target
    else { replica with now := target }
termination_by target - now
decreasing_by
  have later : now + 1 ≤ target := Nat.le_trans (Nat.le_max_right ..) _reached
  exact Nat.sub_lt_sub_left later (Nat.le_max_right ..)

def advance (replica : Replica) (duration : Nat) : Replica :=
  replica.runBetween replica.now (replica.now + duration)

/-- Waits for the outcome of work; time moves on while the work sleeps. Work that hangs has no
outcome, and whoever waits for it waits for ever. -/
def await (replica : Replica) : Work → Replica × Option Outcome
  | .finish => (replica, some .completed)
  | .fail error => (replica, some (.failed error))
  | .panic cause => (replica, some (.panicked cause))
  | .hang => (replica, none)
  | .record event next =>
    { replica with journal := replica.journal.record replica.now event }.await next
  | .note notice next => (replica.note notice).await next
  | .sleep duration next => (replica.advance duration).await next
  | .removeEntry entry next =>
    let (present, engine) := replica.engine.remove entry
    (replica.withEngine engine).await (next present)

def invoke (replica : Replica) (task : String) (values : List Json) :
    Replica × Option Outcome :=
  replica.await (replica.registry.invoke task values)

/-! The roster. -/

def initialise (replica : Replica) : Except ScheduleError Replica := do
  let roster ← replica.roster.initialise replica.mechanism replica.wall
  return { replica with roster }

/-- Starts a run loop after the entry that reloads the definitions was seen to. -/
def runRoster (replica : Replica) (loop : Nat) : Except ScheduleError Replica := do
  let ready ← replica.initialise
  return ready.withEngine (ready.engine.run loop)

/-! Held reloads. -/

def holdReload (replica : Replica) (name : String) : Replica :=
  let ((ticket, read), replica) := replica.readDefinitions
  { replica with held := (name, ticket, read) :: replica.held.filter (·.1 != name) }

def releaseReload (replica : Replica) (name : String) : Option (Except Error Summary) × Replica :=
  match replica.held.find? (·.1 == name) with
  | none => (none, replica)
  | some (_, ticket, read) =>
    let replica := { replica with held := replica.held.filter (·.1 != name) }
    let (outcome, replica) := replica.applyDefinitions ticket read
    (some outcome, replica)

/-! Beginning and end. -/

inductive LaunchError where
  | storeMissing
  | registryMissing
  | schedule (error : ScheduleError)
deriving DecidableEq, Repr

def LaunchError.message : LaunchError → String
  | storeMissing => "store is required"
  | registryMissing => "registry is required"
  | schedule error => error.message

structure Plan where
  origin : Wall := 0
  offset : Calendar.Offset := 0
  store : Option Store := none
  registry : Option Registry := none
  coordinator : Option Coordinator := none
  candidate : String
  election : Election.Settings := {}
  schedule : ScheduleSettings := {}

def mainLoop : Nat := 0

/-- Launches a replica: the definitions are loaded once, and then the elector and the engine
start. A failed first load is logged, and made good by the next reload. -/
def launch (plan : Plan) : Except LaunchError Replica := do
  let some store := plan.store | throw .storeMissing
  let some registry := plan.registry | throw .registryMissing
  let cluster : Cluster := Cluster.ofElectors
    [{ candidate := plan.candidate, settings := plan.election }]
  let defaulted := plan.coordinator.isNone
  let replica : Replica := {
    origin := plan.origin
    offset := plan.offset
    store
    registry
    cluster := { cluster with
      coordinator := plan.coordinator.getD {}
      recording := !defaulted }
    roster := { settings := plan.schedule, gated := plan.schedule.leaderOnly }
  }
  let replica := if defaulted then replica.note .coordinationDefaulted else replica
  let ready ← replica.initialise.mapError .schedule
  let loaded := ready.reloadLogged .firstLoadFailed
  let started := { loaded with cluster := (loaded.cluster.start loaded.now self).2 }
  return (started.withEngine (started.engine.run mainLoop)).settle

def shutDown (replica : Replica) : Replica :=
  { replica with cluster := replica.cluster.cancel self }.withEngine replica.engine.dismiss

/-- Whether both the elector and the engine's loop are still going. -/
def isRunning (replica : Replica) : Bool :=
  !(replica.cluster.elector? self).any Elector.hasStopped && replica.engine.isRunning mainLoop

end Replica

end Rota
