/-!
The versions of the table of task definitions, oldest first. Every kind of database goes through
the same versions.
-/

namespace Rota.Schedule

structure Migration where
  version : Nat
  title : String
deriving DecidableEq, Repr

def Migration.all : List Migration :=
  [{ version := 20250101000000, title := "periodic tasks" }]

end Rota.Schedule
