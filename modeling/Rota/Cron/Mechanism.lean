import Rota.Cron.Search
import Rota.Schedule.Roster

/-!
Timetables that work by cron expressions, on a clock at a fixed offset from UTC.
-/

namespace Rota.Cron

open Rota.Schedule

def mechanism (offset : Calendar.Offset) : Mechanism Pattern Duty where
  read expression := (Pattern.parse expression).mapError PatternFault.message
  next pattern now :=
    match pattern.next? offset now with
    | some next => .ok next
    | none => .error searchLimit
  breaks := Duty.breaks

end Rota.Cron
