import Rota.Task.Work

/-!
Crews: the watched work that rests until an instant or for ever. Work that ends leaves the
crew and is reported.
-/

namespace Rota.Task

open Rota.Schedule

structure Worker where
  id : Nat
  assignment : Assignment
  rest : Option (Instant × Work)

structure Crew where
  hired : Nat := 0
  workers : List Worker := []

namespace Crew

variable {σ : Type}

def settle (crew : Crew) (now : Instant) (id : Nat) (assignment : Assignment) (rest : Rest)
    (journal : Journal) : Crew × Journal :=
  match rest with
  | .ended outcome => (crew, journal.noteAll now (assignment.report outcome).toList)
  | .asleep wake next =>
    let worker := { id, assignment, rest := some (wake, next) }
    ({ crew with workers := crew.workers ++ [worker] }, journal)
  | .hung =>
    ({ crew with workers := crew.workers ++ [{ id, assignment, rest := none }] }, journal)

def start (remove : EntryId → σ → Bool × σ) (now : Instant) (assignment : Assignment)
    (crew : Crew) (state : σ) (journal : Journal) : Nat × Crew × σ × Journal :=
  let (rest, state, journal) := assignment.work.perform remove now state journal
  let id := crew.hired
  let (crew, journal) :=
    settle { crew with hired := crew.hired + 1 } now id assignment rest journal
  (id, crew, state, journal)

def Worker.isDue (now : Instant) (worker : Worker) : Bool :=
  match worker.rest with
  | some (wake, _) => wake ≤ now
  | none => false

def resume (remove : EntryId → σ → Bool × σ) (now : Instant)
    (current : Crew × σ × Journal) (worker : Worker) : Crew × σ × Journal :=
  let (crew, state, journal) := current
  match worker.rest with
  | none => current
  | some (_, next) =>
    let (rest, state, journal) := next.perform remove now state journal
    let others := { crew with workers := crew.workers.filter (·.id != worker.id) }
    let (crew, journal) := settle others now worker.id worker.assignment rest journal
    (crew, state, journal)

def wake (remove : EntryId → σ → Bool × σ) (now : Instant) (crew : Crew) (state : σ)
    (journal : Journal) : Crew × σ × Journal :=
  (crew.workers.filter (Worker.isDue now)).foldl (resume remove now) (crew, state, journal)

def nextWake (crew : Crew) : Option Instant :=
  (crew.workers.filterMap fun worker => worker.rest.map Prod.fst).min?

def hasFinished (crew : Crew) (id : Nat) : Bool := !crew.workers.any (·.id == id)

end Crew

end Rota.Task
