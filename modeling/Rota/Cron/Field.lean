import Rota.Decimal.Power
import Rota.Text.Blank
import Rota.Text.Numeral

/-!
One field of a cron expression: the values it names, and the marks they carry.
-/

namespace Rota.Cron

inductive FieldKind where
  | second
  | minute
  | hour
  | day
  | month
  | weekday
deriving DecidableEq, Repr

namespace FieldKind

def least : FieldKind → Nat
  | day => 1
  | month => 1
  | _ => 0

def greatest : FieldKind → Nat
  | second => 59
  | minute => 59
  | hour => 23
  | day => 31
  | month => 12
  | weekday => 7

/-- The marks that a field allows, as a set of bits. -/
def allowed : FieldKind → Nat
  | day => 0b11000001
  | weekday => 0b01111111
  | _ => 0b01000001

def allowsOccurrences (kind : FieldKind) : Bool := kind.allowed &&& 0b00111110 == 0b00111110

def inBounds (kind : FieldKind) (value : Nat) : Bool :=
  kind.least ≤ value && value ≤ kind.greatest

end FieldKind

/-- How a value was named: as such, as an occurrence in the month, as the last one in the month,
or as the weekday nearest to a day. -/
inductive Mark where
  | plain
  | nth (ordinal : Nat)
  | last
  | nearest
deriving DecidableEq, Repr

def Mark.bit : Mark → Nat
  | plain => 0b00000001
  | nth ordinal => Decimal.twoTo ordinal
  | last => 0b01000000
  | nearest => 0b10000000

inductive FieldFault where
  | markRefused (mark : Mark) (kind : FieldKind)
  | steppingForm
  | stepNumber
  | stepZero
  | steppingRangeForm
  | steppingRangeStart
  | steppingRangeEnd
  | steppingStart
  | steppingBounds
  | steppingOverflow
  | rangeForm
  | rangeStart
  | rangeEnd
  | rangeBounds
  | nearestNumber
  | nearestBounds
  | occurrenceRefused
  | lastRefused
  | number
  | numberBounds
  | occurrenceNumber
  | occurrenceBounds
deriving DecidableEq, Repr

def FieldFault.message : FieldFault → String
  | markRefused mark kind =>
    "Bit 0b" ++ Text.octet mark.bit ++ " is not supported by the current features 0b" ++
      Text.octet kind.allowed ++ "."
  | steppingForm => "Invalid stepped range syntax."
  | stepNumber => "Invalid step."
  | stepZero => "Step cannot be zero."
  | steppingRangeForm => "Invalid range syntax in stepping."
  | steppingRangeStart => "Invalid range start."
  | steppingRangeEnd => "Invalid range end."
  | steppingStart => "Invalid start."
  | steppingBounds => "Range is out of bounds in stepping."
  | steppingOverflow => "Value exceeded max after stepping."
  | rangeForm => "Invalid range syntax."
  | rangeStart => "Invalid start of range."
  | rangeEnd => "Invalid end of range."
  | rangeBounds => "Range out of bounds."
  | nearestNumber => "Invalid day for closest weekday."
  | nearestBounds => "Day for closest weekday out of bounds."
  | occurrenceRefused => "Nth specifier # not allowed in the current field."
  | lastRefused => "L not allowed in the current field."
  | number => "Invalid number."
  | numberBounds => "Number out of bounds."
  | occurrenceNumber => "Invalid nth specifier."
  | occurrenceBounds => "Nth specifier out of bounds."

/-- The values of a field by their marks. A starred field was written as a lone star, and
`lastDay` says that a lone `l` stood among the parts. -/
structure Field where
  starred : Bool := false
  lastDay : Bool := false
  plain : List Nat := []
  occurrences : List (Nat × Nat) := []
  last : List Nat := []
  nearest : List Nat := []
deriving DecidableEq, Repr

namespace Field

def withMark (field : Field) (value : Nat) : Mark → Field
  | .plain => { field with plain := value :: field.plain }
  | .nth ordinal => { field with occurrences := (value, ordinal) :: field.occurrences }
  | .last => { field with last := value :: field.last }
  | .nearest => { field with nearest := value :: field.nearest }

def markAll (kind : FieldKind) (field : Field) (values : List Nat) (mark : Mark) :
    Except FieldFault Field :=
  if values.isEmpty || kind.allowed &&& mark.bit != 0 then
    .ok (values.foldl (fun field value => field.withMark value mark) field)
  else .error (.markRefused mark kind)

/-- Numbers are at most 255. -/
def number (fault : FieldFault) (text : List Char) : Except FieldFault Nat :=
  match Text.natural? 256 text with
  | some value => .ok value
  | none => .error fault

def markOf (part : List Char) : Except FieldFault Mark :=
  if part.getLast? == some 'L' || part.getLast? == some 'l' then .ok .last
  else match part.dropWhile (· != '#') with
    | [] => .ok .plain
    | _ :: ordinal => do
      let ordinal ← number .occurrenceNumber ordinal
      if 1 ≤ ordinal && ordinal ≤ 5 then return .nth ordinal else throw .occurrenceBounds

def beforeHash (part : List Char) : List Char := part.takeWhile (· != '#')

def steppingEnds (kind : FieldKind) (text : List Char) : Except FieldFault (Nat × Nat) :=
  if text == ['*'] then .ok (kind.least, kind.greatest)
  else if text.contains '-' then
    match Text.cutAt (· == '-') text with
    | [first, final] => do
      let first ← number .steppingRangeStart first
      let final ← number .steppingRangeEnd final
      return (first, final)
    | _ => .error .steppingRangeForm
  else do
    let first ← number .steppingStart text
    return (first, kind.greatest)

def stepped (first final step : Nat) : List Nat :=
  ((List.range (final - first + 1)).filter (· % step == 0)).map (first + ·)

def addStepping (kind : FieldKind) (field : Field) (part : List Char) :
    Except FieldFault Field := do
  let mark ← markOf part
  match Text.cutAt (· == '/') (beforeHash part) with
  | [range, step] =>
    let step ← number .stepNumber step
    if step == 0 then throw .stepZero
    let (first, final) ← steppingEnds kind range
    if first < kind.least || kind.greatest < final || final < first then throw .steppingBounds
    let values := stepped first final step
    let field ← markAll kind field values mark
    if values.getLastD first + step > 255 then throw .steppingOverflow
    return field
  | _ => throw .steppingForm

def addRange (kind : FieldKind) (field : Field) (part : List Char) : Except FieldFault Field := do
  let mark ← markOf part
  match Text.cutAt (· == '-') (beforeHash part) with
  | [first, final] =>
    let first ← number .rangeStart first
    let final ← number .rangeEnd final
    if final < first || !kind.inBounds first || !kind.inBounds final then throw .rangeBounds
    markAll kind field (stepped first final 1) mark
  | _ => throw .rangeForm

def addNearest (kind : FieldKind) (field : Field) (part : List Char) :
    Except FieldFault Field := do
  let day ← number .nearestNumber (part.takeWhile (· != 'w'))
  if kind.inBounds day then markAll kind field [day] .nearest else throw .nearestBounds

/-- A final `l` without an occurrence counts as one. -/
def withLastAsOccurrence (part : List Char) : List Char :=
  let part := part.map fun character => if character == 'l' then 'L' else character
  if part.getLast? == some 'L' && !part.contains '#' then
    part.flatMap fun character => if character == 'L' then ['#', 'L'] else [character]
  else part

def addNumber (kind : FieldKind) (field : Field) (part : List Char) : Except FieldFault Field := do
  let part := withLastAsOccurrence part
  if part.contains '#' && !kind.allowsOccurrences then throw .occurrenceRefused
  if part.contains 'L' && !kind.allowsOccurrences then throw .lastRefused
  let mark ← markOf part
  let value ← number .number (beforeHash part)
  if kind.inBounds value then markAll kind field [value] mark else throw .numberBounds

def addPart (kind : FieldKind) (field : Field) (part : List Char) : Except FieldFault Field :=
  if part.isEmpty then .ok field
  else if part.contains '/' then addStepping kind field part
  else if part.contains '-' then addRange kind field part
  else if part.contains 'w' then addNearest kind field part
  else if part == ['l'] then .ok { field with lastDay := true }
  else addNumber kind field part

def parse (kind : FieldKind) (text : List Char) : Except FieldFault Field :=
  if text == ['*'] then
    .ok { starred := true, plain := stepped kind.least kind.greatest 1 }
  else (Text.cutAt (· == ',') text).foldlM (addPart kind) {}

/-- Sunday may be written as seven. -/
def withSunday (field : Field) : Field :=
  let sunday (day : Nat) : Nat := if day == 7 then 0 else day
  { field with
    plain := field.plain.map sunday
    occurrences := field.occurrences.map fun (day, ordinal) => (sunday day, ordinal) }

/-- The least plain value that is not below a bound. -/
def firstFrom (field : Field) (bound : Nat) : Option Nat :=
  (field.plain.filter (bound ≤ ·)).min?

end Field

end Rota.Cron
