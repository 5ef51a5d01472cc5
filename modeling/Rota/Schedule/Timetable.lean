import Rota.Calendar.Moment
import Rota.Schedule.Basic

/-!
Timetables: named entries with a schedule, the next time at which each is due, and a duty.
Firing takes up every due entry at once and puts its next time after the clock's reading.
-/

namespace Rota.Schedule

/-- How a timetable works: how expressions are read and searched, and which duties panic as soon
as they are called, before any work of theirs is under way. -/
structure Mechanism (σ δ : Type) where
  read : String → Except String σ
  next : σ → Wall → Except String Wall
  breaks : δ → Bool

structure Entry (σ δ : Type) where
  id : EntryId
  name : String
  schedule : σ
  next : Option Wall
  duty : δ

/-- Entries stand in ascending order of their ids, which are never used twice. -/
structure Timetable (σ δ : Type) where
  entries : List (Entry σ δ) := []
  nextId : EntryId := 1

structure Firing (δ : Type) where
  id : EntryId
  name : String
  duty : δ
  exhausted : Bool

namespace Timetable

variable {σ δ : Type}

/-- The schedule of an expression with its next time after the clock's reading. -/
def plan (mechanism : Mechanism σ δ) (now : Wall) (expression : String) :
    Except ScheduleError (σ × Wall) := do
  let invalid (reason : String) : ScheduleError := .invalidCron expression reason
  let schedule ← (mechanism.read expression).mapError invalid
  let next ← (mechanism.next schedule now).mapError invalid
  return (schedule, next)

/-- Adds an entry; only an accepted expression uses up an id. -/
def add (timetable : Timetable σ δ) (mechanism : Mechanism σ δ) (now : Wall)
    (name expression : String) (duty : δ) : Except ScheduleError (EntryId × Timetable σ δ) := do
  let (schedule, next) ← plan mechanism now expression
  let id := timetable.nextId
  let entry : Entry σ δ := { id, name, schedule, next := some next, duty }
  return (id, { entries := timetable.entries ++ [entry], nextId := id + 1 })

def find? (timetable : Timetable σ δ) (id : EntryId) : Option (Entry σ δ) :=
  timetable.entries.find? (·.id == id)

def contains (timetable : Timetable σ δ) (id : EntryId) : Bool := (timetable.find? id).isSome

def nextRun (timetable : Timetable σ δ) (id : EntryId) : Option Wall :=
  (timetable.find? id).bind Entry.next

def remove (timetable : Timetable σ δ) (id : EntryId) : Bool × Timetable σ δ :=
  (timetable.contains id,
    { timetable with entries := timetable.entries.filter (·.id != id) })

def size (timetable : Timetable σ δ) : Nat := timetable.entries.length

def earliest (timetable : Timetable σ δ) : Option Wall :=
  (timetable.entries.filterMap Entry.next).min?

end Timetable

namespace Entry

variable {σ δ : Type}

def isDue (now : Wall) (entry : Entry σ δ) : Bool :=
  match entry.next with
  | some next => next ≤ now
  | none => false

/-- The entry with its next time after the clock's reading, or without one. -/
def rescheduled (mechanism : Mechanism σ δ) (now : Wall) (entry : Entry σ δ) : Entry σ δ :=
  { entry with next := (mechanism.next entry.schedule now).toOption }

def firing (entry : Entry σ δ) : Firing δ :=
  { id := entry.id, name := entry.name, duty := entry.duty, exhausted := entry.next.isNone }

end Entry

namespace Timetable

variable {σ δ : Type}

/-- Takes up all due entries, in the order of their ids, and reschedules them. -/
def fire (timetable : Timetable σ δ) (mechanism : Mechanism σ δ) (now : Wall) :
    List (Firing δ) × Timetable σ δ :=
  let due := timetable.entries.filter (Entry.isDue now)
  (due.map fun entry => (entry.rescheduled mechanism now).firing,
    { timetable with entries := timetable.entries.map fun entry =>
        if entry.isDue now then entry.rescheduled mechanism now else entry })

end Timetable

end Rota.Schedule
