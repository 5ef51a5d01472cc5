import Rota.Calendar.Moment
import Rota.Election.Basic
import Rota.Json.Printer
import Rota.Schedule.Basic
import Rota.Task.Basic

/-!
Journals of a run: the events that an observer sees and the notices that are logged, each with
its instant. What happens at one instant has no order, so listings are sorted by their text.
-/

namespace Rota

open Rota.Election Rota.Schedule Rota.Task

inductive Event where
  | called (task : String) (arguments : List Json)
  | summed (sum : Nat)
  | fired (name : String)
  | finished (name : String)
  | removed (present : Bool)
  | done (name : String)
  | sessionAsked (lifetime : Duration) (answer : Except CoordinationError Lease)
  | campaigned (lease : Lease) (key value : String) (fails : Bool)
  | sessionClosed (lease : Lease) (failure : Option CoordinationError)
  | renewed
  | leaseEnded

inductive Level where
  | info
  | warn
  | error
deriving DecidableEq, Repr

inductive Notice where
  | fibonacciFinished (index value : Nat)
  | handlerReplaced (task : String)
  | handlerMissing (task : String)
  | taskFailed (task : String) (error : TaskError)
  | panicked (name : String) (panic : Panic)
  | entryExhausted (entry : EntryId) (name : String)
  | argumentsUnreadable (task : TaskId) (name : String)
  | registrationFailed (task : TaskId) (name cron : String) (error : ScheduleError)
  | reloadFailed (reason : String)
  | firstLoadFailed (reason : String)
  | coordinationDefaulted
  | sessionFailed (error : CoordinationError)
  | campaignFailed (candidate : String) (error : CoordinationError)
  | lostWhileCampaigning (candidate : String)
  | lostWhileLeading (candidate : String)
  | closeFailed (lease : Lease) (error : CoordinationError)
  | leaseExpired (lease : Lease)
  | renewalFailed (lease : Lease) (reason : String)
  | deadlinePassed (lease : Lease)

namespace Event

def members : Event → List (String × Json)
  | called task arguments =>
    [("args", .string (Json.listText arguments)), ("call", .string task)]
  | summed sum => [("call", .string "Add"), ("sum", .string (toString sum))]
  | fired name => [("fired", .string name)]
  | finished name => [("finished", .string name)]
  | removed present => [("removed", .bool present)]
  | done name => [("done", .string name)]
  | sessionAsked lifetime answer =>
    let (lease, result) := match answer with
      | .ok lease => (Json.integer lease, "ok")
      | .error error => (Json.null, error.message)
    [("call", .string "create_session"), ("lease", lease), ("result", .string result),
      ("ttl_ms", .ofNat lifetime)]
  | campaigned lease key value fails =>
    [("call", .string "campaign"), ("fail", .bool fails), ("lease", .integer lease),
      ("prefix", .string key), ("value", .string value)]
  | sessionClosed lease failure =>
    let result := match failure with
      | none => "ok"
      | some error => error.message
    [("call", .string "close"), ("lease", .integer lease), ("result", .string result)]
  | renewed => [("call", .string "renew")]
  | leaseEnded => [("done", .bool true)]

end Event

namespace Notice

def level : Notice → Level
  | fibonacciFinished _ _ => .info
  | handlerMissing _ => .error
  | taskFailed _ _ => .error
  | panicked _ _ => .error
  | argumentsUnreadable _ _ => .error
  | registrationFailed _ _ _ _ => .error
  | sessionFailed _ => .error
  | campaignFailed _ _ => .error
  | _ => .warn

def message : Notice → String
  | fibonacciFinished _ _ => "CalcFib finished"
  | handlerReplaced _ => "Task handler replaced"
  | handlerMissing _ => "Task handler not found"
  | taskFailed _ _ => "Task failed"
  | panicked _ _ => "Supervised task panicked"
  | entryExhausted _ _ => "Cron entry has no further runs"
  | argumentsUnreadable _ _ => "Failed to decode periodic task args"
  | registrationFailed _ _ _ _ => "Failed to register periodic task"
  | reloadFailed _ => "Failed to reload periodic tasks"
  | firstLoadFailed _ => "Initial periodic task load failed"
  | coordinationDefaulted => "No coordinator configured; using in-memory coordination"
  | sessionFailed _ => "Create election session failed"
  | campaignFailed _ _ => "Leader election campaign failed"
  | lostWhileCampaigning _ => "Election session lost while campaigning"
  | lostWhileLeading _ => "Election session lost, starting new election"
  | closeFailed _ _ => "Failed to close election session"
  | leaseExpired _ => "Lease expired"
  | renewalFailed _ _ => "Lease keep-alive failed"
  | deadlinePassed _ => "Lease deadline passed without keep-alive response"

def fields : Notice → List (String × String)
  | fibonacciFinished index value => [("n", toString index), ("value", toString value)]
  | handlerReplaced task => [("task", task)]
  | handlerMissing task => [("task", task)]
  | taskFailed task error => [("error", error.message), ("task", task)]
  | panicked name panic => [("panic", panic.message), ("task", name)]
  | entryExhausted entry name => [("entry_id", toString entry), ("name", name)]
  | argumentsUnreadable task name => [("task", name), ("task_id", toString task)]
  | registrationFailed task name cron error =>
    [("cron", cron), ("error", error.message), ("task", name), ("task_id", toString task)]
  | reloadFailed reason => [("error", reason)]
  | firstLoadFailed reason => [("error", reason)]
  | coordinationDefaulted => []
  | sessionFailed error => [("error", error.message)]
  | campaignFailed candidate error => [("error", error.message), ("instance_id", candidate)]
  | lostWhileCampaigning candidate => [("instance_id", candidate)]
  | lostWhileLeading candidate => [("instance_id", candidate)]
  | closeFailed lease error => [("error", error.message), ("lease_id", toString lease)]
  | leaseExpired lease => [("lease_id", toString lease)]
  | renewalFailed lease reason => [("error", reason), ("lease_id", toString lease)]
  | deadlinePassed lease => [("lease_id", toString lease)]

end Notice

def Level.text : Level → String
  | info => "INFO"
  | warn => "WARN"
  | error => "ERROR"

def Event.json (time : Instant) (event : Event) : Json :=
  .ofMembers (("t", .ofNat time) :: event.members)

def Notice.json (time : Instant) (notice : Notice) : Json :=
  .ofMembers [("t", .ofNat time), ("level", .string notice.level.text),
    ("message", .string notice.message),
    ("fields", .ofMembers (notice.fields.map fun (key, value) => (key, .string value)))]

/-- Events and notices with their instants, the newest first. -/
structure Journal where
  events : List (Instant × Event) := []
  notices : List (Instant × Notice) := []

namespace Journal

def record (journal : Journal) (time : Instant) (event : Event) : Journal :=
  { journal with events := (time, event) :: journal.events }

def note (journal : Journal) (time : Instant) (notice : Notice) : Journal :=
  { journal with notices := (time, notice) :: journal.notices }

def noteAll (journal : Journal) (time : Instant) (notices : List Notice) : Journal :=
  notices.foldl (fun journal notice => journal.note time notice) journal

def append (journal later : Journal) : Journal :=
  { events := later.events ++ journal.events, notices := later.notices ++ journal.notices }

def listing (items : List (Instant × Json)) : List Json :=
  let keyed := items.map fun (time, item) => (time, item.text, item)
  let sorted := keyed.mergeSort fun left right =>
    left.1 < right.1 || (left.1 == right.1 && left.2.1 ≤ right.2.1)
  sorted.map fun (_, _, item) => item

def eventListing (journal : Journal) : List Json :=
  listing (journal.events.map fun (time, event) => (time, event.json time))

def noticeListing (journal : Journal) : List Json :=
  listing (journal.notices.map fun (time, notice) => (time, notice.json time))

end Journal

end Rota
