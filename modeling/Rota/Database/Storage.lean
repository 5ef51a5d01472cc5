import Rota.Database.File

/-!
Opening databases among the folders and files that there are, and making their tables.
-/

namespace Rota.Database

/-- What stands at a place: a folder, or a file that holds a database or something else. An empty
file is a database without tables. -/
inductive Entry where
  | folder
  | database
  | other
deriving DecidableEq, Repr

abbrev Place := List String

def namesOf (path : String) : List String :=
  (Text.cutAt (· == '/') path.toList).map String.ofList

structure Files where
  folder : Place := []
  entry? : Place → Option Entry := fun _ => none

def placeText (place : Place) : String := String.join (place.map ("/" ++ ·))

namespace Files

def longestName : Nat := 255

/-- The most bytes of a path, with the ending of the file that keeps changes until they are
complete. -/
def longestPath : Nat := 512

def journalEnding : String := "-journal"

def isFile (files : Files) (place : Place) : Bool :=
  match files.entry? place with
  | some .folder => false
  | some _ => true
  | none => false

/-- The place that a name leads to. A double dot goes back. -/
def step (place : Place) (name : String) : Place :=
  if name.isEmpty || name == "." then place
  else if name == ".." then place.dropLast
  else place ++ [name]

/-- Follows names from a place. Those that lead on must be short enough, and none leads through
a file. -/
def follow (files : Files) (place : Place) : List String → Option Place
  | [] => some place
  | name :: names =>
    let next := step place name
    if place.length < next.length && (longestName < name.utf8ByteSize || files.isFile place) then
      none
    else follow files next names

def visited (place : Place) : List String → List Place
  | [] => [place]
  | name :: names => place :: visited (step place name) names

def locate (files : Files) (path : String) : Option Place := do
  let start := if path.toList.head? == some '/' then [] else files.folder
  let place ← files.follow start (namesOf path)
  if place.isEmpty || longestPath < (placeText place ++ journalEnding).utf8ByteSize then none
  else some place

def openAt (files : Files) (target : Target) (place : Place) : Except Refusal Entry :=
  match files.entry? place with
  | some .folder =>
    if target.access = .readOnly then .error .unreadable else .error .cannotOpen
  | some entry => .ok entry
  | none =>
    if target.access = .create && files.entry? place.dropLast = some .folder then .ok .database
    else .error .cannotOpen

def hasRoomForJournal (place : Place) : Bool :=
  (place.getLastD "" ++ journalEnding).utf8ByteSize ≤ longestName

def storages : List String := ["unix", "unix-none", "unix-dotfile", "unix-excl", "memdb"]

def makeTables (writable : Bool) : Except Fault Unit :=
  if writable then .ok () else .error (.refusedTables .readOnly)

/-- Opens a target and makes its tables. Neither a target in memory nor one without a name is
looked for among the files. -/
def openTarget (files : Files) (target : Target) : Except Fault Unit := do
  if !storages.contains target.storage then throw (.refused (.unknownStorage target.storage))
  let writable := target.access != .readOnly
  if target.inMemory || target.path == String.ofList memoryName || target.path.isEmpty then
    makeTables writable
  else if target.storage == "memdb" then makeTables (writable && !target.immutable)
  else
    let some place := files.locate target.path
      | throw (.refused .cannotOpen)
    let entry ← (files.openAt target place).mapError .refused
    if entry = .other then throw (.refusedTables .notDatabase)
    makeTables (writable && !target.immutable)
    if !hasRoomForJournal place then throw (.refusedTables .cannotOpen)

def openFile (files : Files) (options : FileOptions) : Except Fault Unit := do
  files.openTarget (← Target.ofOptions options)

end Files

end Rota.Database
