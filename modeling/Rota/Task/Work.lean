import Rota.Journal

/-!
Work: what a started task still has to do, step by step. Performing it goes on until it ends
or rests, and keeps a journal.
-/

namespace Rota.Task

open Rota.Schedule

inductive Work where
  | finish
  | fail (error : TaskError)
  | panic (cause : Panic)
  | hang
  | record (event : Event) (next : Work)
  | note (notice : Notice) (next : Work)
  | sleep (duration : Nat) (next : Work)
  | removeEntry (entry : EntryId) (next : Bool → Work)

inductive Rest where
  | ended (outcome : Outcome)
  | asleep (wake : Instant) (next : Work)
  | hung

/-- Performs work at an instant. Entries are removed from a state that the caller keeps. -/
def Work.perform {σ : Type} (remove : EntryId → σ → Bool × σ) (now : Instant) :
    Work → σ → Journal → Rest × σ × Journal
  | finish, state, journal => (.ended .completed, state, journal)
  | fail error, state, journal => (.ended (.failed error), state, journal)
  | panic cause, state, journal => (.ended (.panicked cause), state, journal)
  | hang, state, journal => (.hung, state, journal)
  | record event next, state, journal => next.perform remove now state (journal.record now event)
  | note notice next, state, journal => next.perform remove now state (journal.note now notice)
  | sleep 0 next, state, journal => next.perform remove now state journal
  | sleep (duration + 1) next, state, journal =>
    (.asleep (now + duration + 1) next, state, journal)
  | removeEntry entry next, state, journal =>
    let (present, state) := remove entry state
    (next present).perform remove now state journal

/-- Work that is watched over: its name for the log, and the task whose failure is logged. -/
structure Assignment where
  name : String
  task : Option String := none
  work : Work

/-- What is logged when watched work ends. A panic goes no further than this. -/
def Assignment.report (assignment : Assignment) : Outcome → Option Notice
  | .completed => none
  | .failed error => assignment.task.map fun task => .taskFailed task error
  | .panicked panic => some (.panicked assignment.name panic)

end Rota.Task
