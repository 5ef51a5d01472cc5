import Rota.Journal
import Rota.Schedule.Timetable

/-!
Engines: a timetable with the run loops that sleep until its next entry is due. A loop reckons
its deadline, looks at the permits, and rests; a change of the timetable or a shutdown wakes the
loop that has rested longest, or leaves a permit when no loop rests.
-/

namespace Rota.Schedule

inductive LoopPhase where
  | reckoning
  | reckoned (deadline : Option Wall)
  | resting (deadline : Option Wall)
deriving DecidableEq, Repr

structure Loop where
  id : Nat
  phase : LoopPhase := .reckoning
  roused : Bool := false
  dismissed : Bool := false
deriving DecidableEq, Repr

def Loop.isResting (loop : Loop) : Bool :=
  match loop.phase with
  | .resting _ => true
  | _ => false

def isPast (now : Wall) : Option Wall → Bool
  | some deadline => deadline ≤ now
  | none => false

structure Engine (σ δ : Type) where
  timetable : Timetable σ δ := {}
  stopped : Bool := false
  changePermit : Bool := false
  shutdownPermit : Bool := false
  /-- The loops in the order in which they went to rest. -/
  loops : List Loop := []

structure Pass (δ : Type) where
  notices : List Notice := []
  started : List (Firing δ) := []

def markFirst {α : Type} (eligible : α → Bool) (mark : α → α) : List α → Option (List α)
  | [] => none
  | item :: items =>
    if eligible item then some (mark item :: items)
    else (markFirst eligible mark items).map (item :: ·)

namespace Engine

variable {σ δ : Type}

def rouse (engine : Engine σ δ) : Engine σ δ :=
  let marked := markFirst (fun loop => loop.isResting && !loop.roused)
    (fun loop => { loop with roused := true }) engine.loops
  match marked with
  | some loops => { engine with loops }
  | none => { engine with changePermit := true }

def dismiss (engine : Engine σ δ) : Engine σ δ :=
  let marked := markFirst (fun loop => loop.isResting && !loop.dismissed)
    (fun loop => { loop with dismissed := true }) engine.loops
  match marked with
  | some loops => { engine with loops }
  | none => { engine with shutdownPermit := true }

/-- Adds an entry, unless the engine has stopped. -/
def add (engine : Engine σ δ) (mechanism : Mechanism σ δ) (now : Wall)
    (name expression : String) (duty : δ) : Except ScheduleError (EntryId × Engine σ δ) := do
  if engine.stopped then throw .engineStopped
  let (id, timetable) ← engine.timetable.add mechanism now name expression duty
  return (id, { engine with timetable }.rouse)

def remove (id : EntryId) (engine : Engine σ δ) : Bool × Engine σ δ :=
  let (present, timetable) := engine.timetable.remove id
  let engine := { engine with timetable }
  (present, if present then engine.rouse else engine)

def run (engine : Engine σ δ) (id : Nat) : Engine σ δ :=
  { engine with loops := engine.loops ++ [{ id }] }

def isRunning (engine : Engine σ δ) (id : Nat) : Bool := engine.loops.any (·.id == id)

/-! Steps of a loop. -/

def withLoop (engine : Engine σ δ) (id : Nat) (phase : LoopPhase) : Engine σ δ :=
  { engine with loops := engine.loops.map fun loop =>
      if loop.id == id then { id, phase } else loop }

def withoutLoop (engine : Engine σ δ) (id : Nat) : Engine σ δ :=
  { engine with loops := engine.loops.filter (·.id != id) }

/-- Ends a loop after a shutdown. A change that was handed to it goes on to another. -/
def halt (engine : Engine σ δ) (loop : Loop) : Engine σ δ :=
  let halted := { engine.withoutLoop loop.id with stopped := true }
  if loop.roused then halted.rouse else halted

def rest (engine : Engine σ δ) (id : Nat) (deadline : Option Wall) : Engine σ δ :=
  let others := engine.withoutLoop id
  { others with loops := others.loops ++ [{ id, phase := .resting deadline }] }

/-- Starts the duties of all due entries one after another. A duty that panics as soon as it is
called takes the loop down with it, and the duties after it do not start. -/
def fire (engine : Engine σ δ) (mechanism : Mechanism σ δ) (now : Wall) (id : Nat) :
    Engine σ δ × Pass δ :=
  let (firings, timetable) := engine.timetable.fire mechanism now
  let fired := { engine with timetable }
  let exhausted := firings.filter (·.exhausted)
  let notices := exhausted.map fun firing => Notice.entryExhausted firing.id firing.name
  let started := firings.takeWhile fun firing => !mechanism.breaks firing.duty
  let broken := firings.any fun firing => mechanism.breaks firing.duty
  (if broken then fired.withoutLoop id else fired.withLoop id .reckoning, { notices, started })

def step? (engine : Engine σ δ) (mechanism : Mechanism σ δ) (now : Wall) (loop : Loop) :
    Option (Engine σ δ × Pass δ) :=
  match loop.phase with
  | .reckoning => some (engine.withLoop loop.id (.reckoned engine.timetable.earliest), {})
  | .reckoned deadline =>
    if engine.shutdownPermit then some ({ engine with shutdownPermit := false }.halt loop, {})
    else if engine.changePermit then
      some ({ engine with changePermit := false }.withLoop loop.id .reckoning, {})
    else if isPast now deadline then some (engine.fire mechanism now loop.id)
    else some (engine.rest loop.id deadline, {})
  | .resting deadline =>
    if loop.dismissed then some (engine.halt loop, {})
    else if loop.roused then some (engine.withLoop loop.id .reckoning, {})
    else if isPast now deadline then some (engine.fire mechanism now loop.id)
    else none

/-- Lets the loops take steps, each until it rests, with at most `fuel` steps in all. -/
def drain (mechanism : Mechanism σ δ) (now : Wall) :
    Nat → Engine σ δ → Pass δ → Engine σ δ × Pass δ
  | 0, engine, pass => (engine, pass)
  | fuel + 1, engine, pass =>
    match engine.loops.findSome? (engine.step? mechanism now) with
    | none => (engine, pass)
    | some (engine, next) =>
      drain mechanism now fuel engine
        { notices := pass.notices ++ next.notices, started := pass.started ++ next.started }

/-- Lets the loops go on until all rest. A loop takes at most eight steps at one reading of the
clock: it wakes, reckons and rests, and in between uses up one permit and fires once. -/
def settle (engine : Engine σ δ) (mechanism : Mechanism σ δ) (now : Wall) :
    Engine σ δ × Pass δ :=
  drain mechanism now (8 * engine.loops.length) engine {}

def nextWake (engine : Engine σ δ) : Option Wall :=
  let deadlines := engine.loops.filterMap fun loop => match loop.phase with
    | .resting deadline => deadline
    | _ => none
  deadlines.min?

def describe (engine : Engine σ δ) : String :=
  "CronEngine \x7b entries: " ++ toString engine.timetable.size ++ ", stopped: " ++
    Text.boolean engine.stopped ++ " \x7d"

end Engine

end Rota.Schedule
