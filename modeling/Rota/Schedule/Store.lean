import Rota.Error
import Rota.Rows
import Rota.Schedule.Definition

/-!
The store of task definitions in memory, ordered by id. Reads can be made to fail.
-/

namespace Rota.Schedule

structure Store where
  rows : List (TaskId × Definition) := []
  failingReads : Nat := 0

namespace Store

def injectedFailure : Error := .other "injected storage failure"

def save (store : Store) (definition : Definition) : Store :=
  { store with rows := Rows.put definition.id definition store.rows }

def delete (store : Store) (id : TaskId) : Bool × Store :=
  ((Rows.find? id store.rows).isSome, { store with rows := Rows.erase id store.rows })

def failReads (store : Store) (count : Nat) : Store := { store with failingReads := count }

/-- All definitions by ascending id, unless the read fails. -/
def findAll (store : Store) : Except Error (List Definition) × Store :=
  match store.failingReads with
  | failingReads + 1 => (.error injectedFailure, { store with failingReads })
  | 0 => (.ok (Rows.values store.rows), store)

end Store

end Rota.Schedule
