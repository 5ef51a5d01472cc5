import Rota.Decimal.Power
import Rota.Election.Basic
import Rota.Resource.Guard
import Rota.Text.Numeral

/-!
Settings of a replica, read from environment variables. The first fault in a fixed order is
reported; a variable whose bytes are not UTF-8 counts as unset.
-/

namespace Rota

structure ScheduleSettings where
  reloadCron : String := "*/5 * * * *"
  leaderOnly : Bool := true
deriving DecidableEq, Repr

inductive SettingsError where
  | missing (name : String)
  | invalid (name expected : String)
deriving DecidableEq, Repr

def SettingsError.message : SettingsError → String
  | missing name => "Missing required environment variable: " ++ name
  | invalid name expected => "Invalid value for " ++ name ++ ": expected " ++ expected

abbrev Environment := String → Option ByteArray

namespace Environment

def text? (environment : Environment) (name : String) : Option String :=
  (environment name).bind String.fromUTF8?

def ofTexts (texts : List (String × String)) : Environment := fun name =>
  (texts.find? (·.1 == name)).map (·.2.toUTF8)

end Environment

structure Settings where
  databaseUrl : String
  election : Election.Settings
  schedule : ScheduleSettings
  demo : Resource.Demo
deriving DecidableEq, Repr

namespace Settings

def variableNames : List String :=
  ["APIGW_DATABASE_URL", "DATABASE_URL", "APIGW_ETCD_ENDPOINTS", "APIGW_ELECTION_NAME",
    "APIGW_ELECTION_RETRY_SECS", "APIGW_ELECTION_SESSION_TTL_SECS", "APIGW_SCHEDULER_RELOAD_CRON",
    "APIGW_SCHEDULER_LEADER_ONLY", "APIGW_DEMO_MODE", "APIGW_DEMO_MODE_WARN_MSG",
    "APIGW_DEMO_PROTECT_RESOURCES"]

/-- A positive number of seconds below 2^64, between blanks. -/
def seconds? (text : String) : Option Nat :=
  (Text.natural? Decimal.wordLimit (Text.trimmed text.toList)).filter (0 < ·)

def boolean? (text : String) : Option Bool :=
  let word := String.ofList ((Text.trimmed text.toList).map Char.toLower)
  if ["true", "1", "yes"].contains word then some true
  else if ["false", "0", "no"].contains word then some false
  else none

/-- A setting whose variable may be unset, but not unacceptable. -/
def optional {α : Type} (environment : Environment) (name expected : String)
    (accept : String → Option α) : Except SettingsError (Option α) :=
  match environment.text? name with
  | none => .ok none
  | some text =>
    match accept text with
    | some value => .ok (some value)
    | none => .error (.invalid name expected)

def secondsSetting (environment : Environment) (name : String) :
    Except SettingsError (Option Nat) :=
  optional environment name "a positive number of seconds" seconds?

def booleanSetting (environment : Environment) (name : String) :
    Except SettingsError (Option Bool) :=
  optional environment name "true or false" boolean?

def parseEndpoints (text : String) : List String := Text.items ',' text

def databaseUrl? (environment : Environment) : Option String :=
  (environment.text? "APIGW_DATABASE_URL").orElse fun _ => environment.text? "DATABASE_URL"

def ofEnvironment (environment : Environment) : Except SettingsError Settings := do
  let some databaseUrl := databaseUrl? environment
    | throw (.missing "APIGW_DATABASE_URL or DATABASE_URL")
  let retry ← secondsSetting environment "APIGW_ELECTION_RETRY_SECS"
  let lifetime ← secondsSetting environment "APIGW_ELECTION_SESSION_TTL_SECS"
  let leaderOnly ← booleanSetting environment "APIGW_SCHEDULER_LEADER_ONLY"
  let demoMode ← booleanSetting environment "APIGW_DEMO_MODE"
  let election : Election.Settings := {}
  let schedule : ScheduleSettings := {}
  let demo : Resource.Demo := {}
  return {
    databaseUrl
    election := {
      name := (environment.text? "APIGW_ELECTION_NAME").getD election.name
      retry := (retry.map (· * 1000)).getD election.retry
      lifetime := (lifetime.map (· * 1000)).getD election.lifetime
      endpoints :=
        ((environment.text? "APIGW_ETCD_ENDPOINTS").map parseEndpoints).getD election.endpoints
    }
    schedule := {
      reloadCron := (environment.text? "APIGW_SCHEDULER_RELOAD_CRON").getD schedule.reloadCron
      leaderOnly := leaderOnly.getD schedule.leaderOnly
    }
    demo := {
      enabled := demoMode.getD demo.enabled
      warning := (environment.text? "APIGW_DEMO_MODE_WARN_MSG").getD demo.warning
      protectedIds :=
        ((environment.text? "APIGW_DEMO_PROTECT_RESOURCES").map
          Resource.Demo.parseProtected).getD demo.protectedIds
    }
  }

def usesSqlite (settings : Settings) : Bool := "sqlite:".isPrefixOf settings.databaseUrl

end Settings

end Rota
