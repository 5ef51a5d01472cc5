import Rota.Task.Arguments

/-!
The ways in which a task ends, and their messages.
-/

namespace Rota.Task

inductive TaskError where
  | unknownTask (task : String)
  | invalidArguments (task : String) (fault : ArgumentFault)
  | failed (reason : String)

def TaskError.message : TaskError → String
  | unknownTask task => "task '" ++ task ++ "' not found"
  | invalidArguments task fault =>
    "invalid arguments for task '" ++ task ++ "': " ++ fault.message
  | failed reason => "task failed: " ++ reason

inductive Panic where
  | text (payload : String)
  | other
deriving DecidableEq, Repr

def Panic.message : Panic → String
  | text payload => payload
  | other => "non-string panic payload"

inductive Outcome where
  | completed
  | failed (error : TaskError)
  | panicked (panic : Panic)

end Rota.Task
