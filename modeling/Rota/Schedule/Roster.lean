import Rota.Schedule.Engine
import Rota.Schedule.Store
import Rota.Task.Registry

/-!
Rosters: an engine whose entries follow the stored definitions of periodic tasks. A reload takes
a ticket before it reads the definitions, and is applied only if no reload with a later ticket
was applied before it.
-/

namespace Rota.Schedule

open Rota.Task

/-- What an entry is there for: to reload the definitions, to run a stored task, or to do work
that was handed in with it. Work that is none panics as soon as it is called for. -/
inductive Duty where
  | reload
  | task (definition : Definition)
  | work (work : Except Panic Work)

def Duty.breaks : Duty → Bool
  | work (.error _) => true
  | _ => false

def Summary.json (summary : Summary) : Json :=
  .ofMembers [("registered", .ofNat summary.registered),
    ("unregistered", .ofNat summary.unregistered), ("failed", .ofNat summary.failed),
    ("stale", .bool summary.stale)]

structure Roster (σ : Type) where
  engine : Engine σ Duty := {}
  entries : List (TaskId × EntryId) := []
  settings : ScheduleSettings := {}
  /-- Stored tasks run only while the attached elector leads. -/
  gated : Bool := false
  reloadEntry : Option EntryId := none
  issued : Nat := 0
  applied : Nat := 0

inductive Verdict where
  | skipped
  | unreadable (notice : Notice)
  | dispatched (task : String) (values : List Json)

/-- A stored task that is fired asks first who leads, and only then what its arguments are. -/
def Definition.verdict (definition : Definition) (gated leading : Bool) : Verdict :=
  if gated && !leading then .skipped
  else match definition.decodeArguments with
    | .error _ => .unreadable (.argumentsUnreadable definition.id definition.name)
    | .ok values => .dispatched definition.name values

namespace Roster

variable {σ : Type}

def reloadName : String := "reload-periodic-tasks"

/-- Adds the entry that reloads the definitions, unless it is there. -/
def initialise (roster : Roster σ) (mechanism : Mechanism σ Duty) (now : Wall) :
    Except ScheduleError (Roster σ) := do
  if roster.reloadEntry.isSome then return roster
  let (id, engine) ←
    roster.engine.add mechanism now reloadName roster.settings.reloadCron .reload
  return { roster with engine, reloadEntry := some id }

def isRegistered (roster : Roster σ) (id : TaskId) : Bool :=
  (Rows.find? id roster.entries).isSome

def registeredIds (roster : Roster σ) : List TaskId := Rows.keys roster.entries

def nextRun (roster : Roster σ) (id : TaskId) : Option Wall :=
  (Rows.find? id roster.entries).bind roster.engine.timetable.nextRun

def register (roster : Roster σ) (mechanism : Mechanism σ Duty) (now : Wall)
    (definition : Definition) : Except ScheduleError (Bool × Roster σ) := do
  if roster.isRegistered definition.id then return (false, roster)
  let (entry, engine) ←
    roster.engine.add mechanism now definition.name definition.cron (.task definition)
  return (true, { roster with engine, entries := Rows.put definition.id entry roster.entries })

def unregister (roster : Roster σ) (id : TaskId) : Bool × Roster σ :=
  match Rows.find? id roster.entries with
  | none => (false, roster)
  | some entry =>
    (true, { roster with
      engine := (roster.engine.remove entry).2
      entries := Rows.erase id roster.entries })

structure Progress (σ : Type) where
  roster : Roster σ
  summary : Summary := {}
  notices : List Notice := []

def Progress.drop (progress : Progress σ) (id : TaskId) : Progress σ :=
  let (dropped, roster) := progress.roster.unregister id
  let summary := progress.summary
  let count := if dropped then summary.unregistered + 1 else summary.unregistered
  { progress with roster, summary := { summary with unregistered := count } }

/-- Follows one definition: a disabled task goes, an enabled one comes. A task that cannot be
registered is counted and logged, and stands in the way of no other. -/
def Progress.follow (mechanism : Mechanism σ Duty) (now : Wall) (progress : Progress σ)
    (definition : Definition) : Progress σ :=
  let summary := progress.summary
  if !definition.enabled then progress.drop definition.id
  else match progress.roster.register mechanism now definition with
    | .ok (true, roster) =>
      { progress with roster, summary := { summary with registered := summary.registered + 1 } }
    | .ok (false, roster) => { progress with roster }
    | .error error =>
      let notice :=
        Notice.registrationFailed definition.id definition.name definition.cron error
      { progress with
        summary := { summary with failed := summary.failed + 1 }
        notices := progress.notices ++ [notice] }

def reconcile (roster : Roster σ) (mechanism : Mechanism σ Duty) (now : Wall)
    (definitions : List Definition) : Progress σ :=
  let followed := definitions.foldl (Progress.follow mechanism now) { roster }
  let stored := definitions.map Definition.id
  let deleted := followed.roster.registeredIds.filter fun id => !stored.contains id
  deleted.foldl Progress.drop followed

def beginReload (roster : Roster σ) : Nat × Roster σ :=
  (roster.issued + 1, { roster with issued := roster.issued + 1 })

/-- Applies the definitions that were read under a ticket, unless newer ones have been. -/
def applyReload (roster : Roster σ) (mechanism : Mechanism σ Duty) (now : Wall) (ticket : Nat)
    (definitions : List Definition) : Progress σ :=
  if ticket < roster.applied then { roster, summary := { stale := true } }
  else { roster with applied := ticket }.reconcile mechanism now definitions

def describe (roster : Roster σ) : String :=
  "PeriodicScheduler \x7b registered: " ++ toString roster.entries.length ++
    ", config: SchedulerConfig \x7b reload_cron: " ++ Text.quoted roster.settings.reloadCron ++
    ", leader_only: " ++ Text.boolean roster.settings.leaderOnly ++ " \x7d \x7d"

end Roster

end Rota.Schedule
