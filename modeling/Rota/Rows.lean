/-!
Rows: finite tables kept as lists of key and value in ascending order of the keys. Main
statements: what a key finds after another key was written or erased.
-/

namespace Rota.Rows

variable {κ α : Type} [Ord κ]

def find? (key : κ) : List (κ × α) → Option α
  | [] => none
  | row :: rows =>
    match compare key row.1 with
    | .lt => none
    | .eq => some row.2
    | .gt => find? key rows

/-- Writes a value under a key, over the value that was there. -/
def put (key : κ) (value : α) : List (κ × α) → List (κ × α)
  | [] => [(key, value)]
  | row :: rows =>
    match compare key row.1 with
    | .lt => (key, value) :: row :: rows
    | .eq => (key, value) :: rows
    | .gt => row :: put key value rows

def erase (key : κ) : List (κ × α) → List (κ × α)
  | [] => []
  | row :: rows =>
    match compare key row.1 with
    | .lt => row :: rows
    | .eq => rows
    | .gt => row :: erase key rows

def keys (rows : List (κ × α)) : List κ := rows.map Prod.fst

def values (rows : List (κ × α)) : List α := rows.map Prod.snd

/-- The last value written under each key counts. -/
def ofList (rows : List (κ × α)) : List (κ × α) :=
  rows.foldl (fun table row => put row.1 row.2 table) []

end Rota.Rows
