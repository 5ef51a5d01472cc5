import Rota.Schedule.Definition

/-!
The store of task definitions as a database table: rows in the order in which they came, with
the id as their key. Saving inserts a row or updates the one with the same id; reading sorts.
-/

namespace Rota.Schedule

structure Table where
  rows : List Definition := []

namespace Table

def contains (table : Table) (id : TaskId) : Bool := table.rows.any (·.id == id)

def upsert (table : Table) (definition : Definition) : Table :=
  if table.contains definition.id then
    { rows := table.rows.map fun row => if row.id == definition.id then definition else row }
  else { rows := table.rows ++ [definition] }

def delete (table : Table) (id : TaskId) : Bool × Table :=
  (table.contains id, { rows := table.rows.filter (·.id != id) })

def selectOrdered (table : Table) : List Definition :=
  table.rows.mergeSort fun left right => left.id ≤ right.id

end Table

end Rota.Schedule
