import Rota.Rows
import Rota.Task.Work

/-!
The registry of task handlers. A task is invoked by a caller who waits for its outcome, or
dispatched as watched work whose outcome is only logged.
-/

namespace Rota.Task

structure Handler where
  parameters : Parameters
  run : List Json → Work

def Handler.start (handler : Handler) (task : String) (values : List Json) : Work :=
  match handler.parameters.accept values with
  | .error fault => .fail (.invalidArguments task fault)
  | .ok () => handler.run values

structure Registry where
  handlers : List (String × Handler) := []

namespace Registry

def find? (registry : Registry) (task : String) : Option Handler :=
  Rows.find? task registry.handlers

def contains (registry : Registry) (task : String) : Bool := (registry.find? task).isSome

/-- The registered names, ascending. -/
def names (registry : Registry) : List String := Rows.keys registry.handlers

def size (registry : Registry) : Nat := registry.handlers.length

/-- Registers a handler, in the place of any handler of the same name. -/
def register (registry : Registry) (task : String) (handler : Handler) :
    Registry × Option Notice :=
  ({ handlers := Rows.put task handler registry.handlers },
    if registry.contains task then some (.handlerReplaced task) else none)

def invoke (registry : Registry) (task : String) (values : List Json) : Work :=
  match registry.find? task with
  | none => .fail (.unknownTask task)
  | some handler => handler.start task values

def dispatch (registry : Registry) (task : String) (values : List Json) :
    Except Notice Assignment :=
  match registry.find? task with
  | none => .error (.handlerMissing task)
  | some handler =>
    .ok { name := "task:" ++ task, task := some task, work := handler.start task values }

def describe (registry : Registry) : String :=
  "TaskRegistry \x7b tasks: " ++ Text.quotedList registry.names ++ " \x7d"

end Registry

end Rota.Task
