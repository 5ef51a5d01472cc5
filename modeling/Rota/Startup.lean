import Rota.Database.Address
import Rota.Replica
import Rota.Settings.File
import Rota.Task.Builtin

/-!
The start of a replica from its environment: settings, database, coordination service and launch,
in this order. The first of them that fails is reported.
-/

namespace Rota

inductive StartupError where
  | settings (error : SettingsError)
  | database (fault : Database.Fault)
  | coordination (error : Election.CoordinationError)
  | launch (error : Replica.LaunchError)
deriving DecidableEq, Repr

namespace StartupError

def messages : StartupError → List String
  | settings error => [error.message]
  | database fault => fault.report
  | coordination error => [error.message]
  | launch error => [error.message]

/-- A text whose lines after the first are indented. -/
def indented (indentation : String) (text : String) : String :=
  let lines := (Text.cutAt (· == '\n') text.toList).map String.ofList
  ("\n" ++ indentation).intercalate lines

def causes : List String → String
  | [] => ""
  | [cause] => "\n\nCaused by:\n    " ++ indented "    " cause
  | several =>
    let numbered := several.mapIdx fun number cause =>
      "\n    " ++ toString number ++ ": " ++ indented "       " cause
    "\n\nCaused by:" ++ String.join numbered

def report (error : StartupError) : String :=
  "Error: " ++ error.messages.headD "" ++ causes (error.messages.drop 1)

end StartupError

structure Surroundings where
  environment : Environment
  settingsFile : Option String := none
  files : Database.Files := {}
  origin : Wall := 0
  candidate : String

namespace Surroundings

def wholeEnvironment (surroundings : Surroundings) : Environment :=
  match surroundings.settingsFile with
  | some file => Settings.withFile surroundings.environment file
  | none => surroundings.environment

def settings (surroundings : Surroundings) : Except StartupError Settings :=
  (Settings.ofEnvironment surroundings.wholeEnvironment).mapError .settings

def databaseAddress (surroundings : Surroundings) : Except StartupError Database.Address := do
  let settings ← surroundings.settings
  (Database.Address.parse surroundings.wholeEnvironment settings).mapError .database

def start (surroundings : Surroundings) : Except StartupError Replica := do
  let settings ← surroundings.settings
  let address ← surroundings.databaseAddress
  (address.connect surroundings.files).mapError .database
  let coordinator ← (Election.connect settings.election.endpoints).mapError .coordination
  (Replica.launch {
    origin := surroundings.origin
    store := some {}
    registry := Task.Registry.builtin
    coordinator
    candidate := surroundings.candidate
    election := settings.election
    schedule := settings.schedule
  }).mapError .launch

end Surroundings

end Rota
