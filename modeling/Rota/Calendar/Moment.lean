import Rota.Calendar.Date
import Rota.Text.Numeral

/-!
Points in time as milliseconds of wall-clock time, local seconds at a fixed offset from UTC,
and their text: `2024-01-31T23:59:58+02:00`.
-/

namespace Rota

/-- Milliseconds since 1970-01-01T00:00:00 UTC. -/
abbrev Wall := Int

/-- Milliseconds since a run began. -/
abbrev Instant := Nat

namespace Calendar

/-- A fixed distance from UTC in minutes, east positive. -/
abbrev Offset := Int

/-- The whole seconds that a clock at an offset shows, counted as if it stood at UTC. -/
def localSeconds (offset : Offset) (wall : Wall) : Int := wall / 1000 + offset * 60

def wallOfLocal (offset : Offset) (seconds : Int) : Wall := (seconds - offset * 60) * 1000

def yearText (year : Int) : String :=
  if 0 ≤ year && year ≤ 9999 then Text.padded 4 year.toNat
  else if year < 0 then "-" ++ Text.padded 4 year.natAbs
  else "+" ++ Text.padded 4 year.toNat

def offsetText (offset : Offset) : String :=
  let minutes := offset.natAbs
  (if offset < 0 then "-" else "+") ++ Text.padded 2 (minutes / 60) ++ ":" ++
    Text.padded 2 (minutes % 60)

/-- Writes the moment that a clock at an offset shows, without the fraction of the second. -/
def momentText (offset : Offset) (wall : Wall) : String :=
  let seconds := localSeconds offset wall
  let date := Date.ofDayNumber (seconds / 86400)
  let time := (seconds % 86400).toNat
  yearText date.year ++ "-" ++ Text.padded 2 date.month ++ "-" ++ Text.padded 2 date.day ++ "T" ++
    Text.padded 2 (time / 3600) ++ ":" ++ Text.padded 2 (time / 60 % 60) ++ ":" ++
    Text.padded 2 (time % 60) ++ offsetText offset

/-- The number that exactly `width` digits denote, with the rest of the text. -/
def readFixed (width : Nat) (text : List Char) : Option (Nat × List Char) :=
  if text.length < width then none
  else (Text.digits? (text.take width)).map fun number => (number, text.drop width)

def readMark (mark : Char) : List Char → Option (List Char)
  | character :: rest => if character.toLower == mark then some rest else none
  | [] => none

/-- A fraction of a second in whole milliseconds. -/
def readFraction (text : List Char) : Nat × List Char :=
  match text with
  | '.' :: rest =>
    let digits := rest.takeWhile Char.isDigit
    let leading := (digits ++ ['0', '0', '0']).take 3
    ((Text.digits? leading).getD 0, rest.dropWhile Char.isDigit)
  | _ => (0, text)

def readSign : List Char → Option (Int × List Char)
  | '+' :: rest => some (1, rest)
  | '-' :: rest => some (-1, rest)
  | '\u2212' :: rest => some (-1, rest)
  | _ => none

def readOffset (text : List Char) : Option (Offset × List Char) :=
  match text with
  | 'z' :: rest => some (0, rest)
  | 'Z' :: rest => some (0, rest)
  | _ => do
    let (sign, rest) ← readSign text
    let (hours, rest) ← readFixed 2 rest
    let rest ← readMark ':' rest
    let (minutes, rest) ← readFixed 2 rest
    some (sign * (hours * 60 + minutes), rest)

structure Reading where
  /-- A leap second counts as the second before it. -/
  wall : Wall
  offset : Offset
  isLeap : Bool := false
deriving DecidableEq, Repr

/-- The point on the line of time: a leap second lies in the second after it. -/
def Reading.point (reading : Reading) : Wall :=
  if reading.isLeap then reading.wall + 1000 else reading.wall

def parseMoment (text : String) : Option Reading := do
  let (year, rest) ← readFixed 4 text.toList
  let rest ← readMark '-' rest
  let (month, rest) ← readFixed 2 rest
  let rest ← readMark '-' rest
  let (day, rest) ← readFixed 2 rest
  let rest ← (readMark 't' rest).orElse fun _ => readMark ' ' rest
  let (hour, rest) ← readFixed 2 rest
  let rest ← readMark ':' rest
  let (minute, rest) ← readFixed 2 rest
  let rest ← readMark ':' rest
  let (second, rest) ← readFixed 2 rest
  let (millisecond, rest) := readFraction rest
  let (offset, rest) ← readOffset rest
  if !rest.isEmpty then none
  else
    let number := Date.dayNumber { year, month, day }
    let seconds := number * 86400 + hour * 3600 + minute * 60 + min second 59
    some {
      wall := wallOfLocal offset seconds + millisecond
      offset
      isLeap := 59 < second
    }

end Calendar

end Rota
