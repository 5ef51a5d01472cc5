import Rota.Schedule.Basic
import Rota.Settings
import Rota.Task.Basic

/-!
The errors of the whole library, with the area that each comes from.
-/

namespace Rota

inductive Error where
  | settings (error : SettingsError)
  | status (error : Resource.StatusError)
  | coordination (error : Election.CoordinationError)
  | schedule (error : Schedule.ScheduleError)
  | task (error : Task.TaskError)
  | other (text : String)

/-- A status error and an error of no area speak for themselves; all others name their area. -/
def Error.message : Error → String
  | settings error => "Configuration error: " ++ error.message
  | status error => error.message
  | coordination error => "Coordination error: " ++ error.message
  | schedule error => "Schedule error: " ++ error.message
  | task error => "Task error: " ++ error.message
  | other text => text

end Rota
