/-!
Identifiers and errors of periodic scheduling.
-/

namespace Rota.Schedule

abbrev EntryId := Nat

abbrev TaskId := Int

inductive ScheduleError where
  | invalidCron (expression reason : String)
  | engineStopped
deriving DecidableEq, Repr

def ScheduleError.message : ScheduleError → String
  | invalidCron expression reason =>
    "invalid cron expression '" ++ expression ++ "': " ++ reason
  | engineStopped => "cron engine stopped"

/-- What one reconciliation did. A stale one did nothing. -/
structure Summary where
  registered : Nat := 0
  unregistered : Nat := 0
  failed : Nat := 0
  stale : Bool := false
deriving DecidableEq, Repr

end Rota.Schedule
