import Rota.Calendar.Date
import Rota.Cron.Field

/-!
Cron expressions of five or six fields, with names for weekdays, months and common patterns,
and the days that they match.
-/

namespace Rota.Cron

structure Pattern where
  seconds : Field
  minutes : Field
  hours : Field
  days : Field
  months : Field
  weekdays : Field
deriving DecidableEq, Repr

inductive PatternFault where
  | blank
  | fieldCount
  | field (fault : FieldFault)
deriving DecidableEq, Repr

def PatternFault.message : PatternFault → String
  | blank => "CronPattern cannot be an empty string."
  | fieldCount =>
    "Invalid pattern: Pattern must consist of five or six fields (minute, hour, day, month, " ++
      "day of week, and optional second)."
  | field fault => "Component error: " ++ fault.message

namespace Pattern

def nicknames : List (String × String) :=
  [("@yearly", "0 0 1 1 *"), ("@annually", "0 0 1 1 *"), ("@monthly", "0 0 1 * *"),
    ("@weekly", "0 0 * * 0"), ("@daily", "0 0 * * *"), ("@hourly", "0 * * * *")]

/-- Names and the numbers they stand for, in the order in which they are replaced. A range may
end, but not start, on Sunday as day seven. -/
def names : List (String × String) :=
  [("-sun", "-7"), ("sun", "0"), ("mon", "1"), ("tue", "2"), ("wed", "3"), ("thu", "4"),
    ("fri", "5"), ("sat", "6"), ("jan", "1"), ("feb", "2"), ("mar", "3"), ("apr", "4"),
    ("may", "5"), ("jun", "6"), ("jul", "7"), ("aug", "8"), ("sep", "9"), ("oct", "10"),
    ("nov", "11"), ("dec", "12")]

/-- Writes an expression in lower case with stars for question marks and numbers for names.
Only ASCII letters can stand in an accepted expression. -/
def normalised (text : List Char) : List Char :=
  let text := text.map fun character => if character == '?' then '*' else character
  let trimmed := (Text.trimmed text).map Char.toLower
  let text := match nicknames.find? (·.1.toList == trimmed) with
    | some (_, pattern) => pattern.toList
    | none => text
  names.foldl (fun text (name, number) => Text.replaceAll name number text)
    (text.map Char.toLower)

def parseField (kind : FieldKind) (text : List Char) : Except PatternFault Field :=
  (Field.parse kind text).mapError .field

def ofFields (second minute hour day month weekday : List Char) : Except PatternFault Pattern := do
  let seconds ← parseField .second second
  let minutes ← parseField .minute minute
  let hours ← parseField .hour hour
  let days ← parseField .day day
  let months ← parseField .month month
  let weekdays ← parseField .weekday weekday
  return { seconds, minutes, hours, days, months, weekdays := weekdays.withSunday }

def parse (text : String) : Except PatternFault Pattern :=
  if (Text.trimmed text.toList).isEmpty then .error .blank
  else match Text.words (normalised text.toList) with
    | [minute, hour, day, month, weekday] => ofFields ['0'] minute hour day month weekday
    | [second, minute, hour, day, month, weekday] => ofFields second minute hour day month weekday
    | _ => .error .fieldCount

/-! The days that a pattern matches. -/

def matchesNearest (pattern : Pattern) (number : Int) (date : Calendar.Date) : Bool :=
  let weekday := Calendar.weekday number
  let marked (number : Int) : Bool :=
    pattern.days.nearest.contains (Calendar.Date.ofDayNumber number).day
  !pattern.days.nearest.isEmpty && 1 ≤ weekday && weekday ≤ 5 &&
    (pattern.days.nearest.contains date.day || (weekday == 1 && marked (number - 1)) ||
      (weekday == 5 && marked (number + 1)))

def matchesDayOfMonth (pattern : Pattern) (number : Int) (date : Calendar.Date) : Bool :=
  pattern.days.plain.contains date.day ||
    (pattern.days.lastDay && date.day == Calendar.daysInMonth date.year date.month) ||
    pattern.matchesNearest number date

def matchesDayOfWeek (pattern : Pattern) (number : Int) (date : Calendar.Date) : Bool :=
  let weekday := Calendar.weekday number
  pattern.weekdays.plain.contains weekday ||
    pattern.weekdays.occurrences.contains (weekday, (date.day - 1) / 7 + 1) ||
    (pattern.weekdays.last.contains weekday &&
      Calendar.daysInMonth date.year date.month < date.day + 7)

/-- A starred day or weekday leaves the choice to the other; two that are both restricted add
their days up. -/
def matchesDay (pattern : Pattern) (number : Int) (date : Calendar.Date) : Bool :=
  match pattern.days.starred, pattern.weekdays.starred with
  | false, false => pattern.matchesDayOfMonth number date || pattern.matchesDayOfWeek number date
  | _, _ =>
    (pattern.matchesDayOfMonth number date && pattern.weekdays.starred) ||
      (pattern.matchesDayOfWeek number date && pattern.days.starred)

def matchesMonth (pattern : Pattern) (month : Nat) : Bool := pattern.months.plain.contains month

end Pattern

end Rota.Cron
