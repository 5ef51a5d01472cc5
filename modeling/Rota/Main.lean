import Rota.Startup
import Std.Time.DateTime.Timestamp

/-!
The command line: starts a replica from its environment and drives it by the real clock until it
stops. Definitions are kept in memory while it runs.
-/

namespace Rota.Main

def settingsFileName : String := ".env"

def readable {α : Type} (attempt : IO α) : IO (Option α) := do
  try return some (← attempt)
  catch _ => return none

/-- The words of a settings file, among which are the names of all variables it refers to. -/
def words (file : String) : List String :=
  let isPart (character : Char) : Bool := character.isAlphanum || character == '_'
  ((Text.cutAt (fun character => !isPart character) file.toList).map String.ofList).eraseDups

def readEnvironment (file : Option String) : IO Environment := do
  let names :=
    Settings.variableNames ++ Database.Server.variableNames ++ words (file.getD "")
  let found ← names.mapM fun name => return (name, ← IO.getEnv name)
  return .ofTexts (found.filterMap fun (name, value) => value.map fun value => (name, value))

def databaseMark : List UInt8 := "SQLite format 3\x00".toUTF8.toList

def lookAt (place : Database.Place) : IO (Option Database.Entry) := do
  let path := Database.placeText place
  if (← readable (IO.FS.Handle.mk (path ++ "/.") .read)).isSome then return some .folder
  let start ← readable do (← IO.FS.Handle.mk path .read).read databaseMark.length.toUSize
  return start.map fun bytes =>
    if bytes.isEmpty || bytes.toList == databaseMark then .database else .other

def lookAround (folder : Database.Place) (path : String) : IO Database.Files := do
  let names := Database.namesOf path
  let places := Database.Files.visited folder names ++ Database.Files.visited [] names
  let found ← places.mapM fun place => return (place, ← lookAt place)
  return { folder, entry? := fun asked => (found.find? (·.1 == asked)).bind (·.2) }

/-- Looks where the replica starts: at the settings, and at the file of its database. -/
def look : IO Surroundings := do
  let settingsFile ← readable (IO.FS.readFile settingsFileName)
  let environment ← readEnvironment settingsFile
  let candidate := (← IO.getEnv "HOSTNAME").getD "rota"
  let origin := (← Std.Time.Timestamp.now).toMillisecondsSinceUnixEpoch.val
  let folder := (Database.namesOf ((← IO.getEnv "PWD").getD "/")).filter fun name => !name.isEmpty
  let plain : Surroundings := { environment, settingsFile, origin, candidate }
  match plain.databaseAddress.toOption.bind Database.Address.path? with
  | none => return plain
  | some path => return { plain with files := ← lookAround folder path }

def longestRest : Nat := 1000

def printNotices (journal : Journal) : IO Unit :=
  journal.noticeListing.forM fun notice => IO.println notice.text

partial def drive (began : Nat) (replica : Replica) : IO Unit := do
  printNotices replica.journal
  if !replica.isRunning then return
  let wake := (replica.nextWake.getD (replica.now + longestRest)) - replica.now
  IO.sleep (min (max wake 1) longestRest).toUInt32
  let elapsed := (← IO.monoMsNow) - began
  drive began ({ replica with journal := {} }.advance (elapsed - replica.now))

end Rota.Main

open Rota in
def main : IO UInt32 := do
  match (← Main.look).start with
  | .error error =>
    IO.eprintln error.report
    return 1
  | .ok replica =>
    Main.drive (← IO.monoMsNow) replica
    return 0
