import Rota.Json.Basic
import Rota.Text.Numeral

/-!
Reading JSON texts. A reader takes a text and returns what it read with the rest of the text,
or the kind of its first fault. Values nest at most 127 deep.
-/

namespace Rota.Json

/-- Why a text is refused: it breaks the grammar, ends too early, or holds another shape of
value than was asked for. -/
inductive Fault where
  | malformed
  | truncated
  | mismatched
deriving DecidableEq, Repr

def Fault.category : Fault → String
  | malformed => "syntax"
  | truncated => "eof"
  | mismatched => "data"

abbrev Reader (α : Type) := List Char → Except Fault (α × List Char)

def isBlank (character : Char) : Bool :=
  character == ' ' || character == '\n' || character == '\t' || character == '\r'

def skipBlanks (text : List Char) : List Char := text.dropWhile isBlank

def readWord {α : Type} (value : α) : List Char → Reader α
  | [], text => .ok (value, text)
  | _ :: _, [] => .error .truncated
  | expected :: word, character :: text =>
    if expected == character then readWord value word text else .error .malformed

/-! Numbers. -/

/-- A significand below 2^64 and a power of ten, taken digit by digit. -/
structure Decimals where
  significand : Nat
  power : Int

/-- Takes digits left of the point. The first digit that does not fit any more, and every digit
after it, counts as a zero. -/
def Decimals.takeWhole (decimals : Decimals) : List Nat → Decimals
  | [] => decimals
  | digit :: digits =>
    let significand := decimals.significand * 10 + digit
    if significand < Decimal.wordLimit then
      Decimals.takeWhole { decimals with significand } digits
    else { decimals with power := decimals.power + (digits.length + 1) }

def Decimals.takeFraction (decimals : Decimals) : List Nat → Decimals
  | [] => decimals
  | digit :: digits =>
    let significand := decimals.significand * 10 + digit
    if significand < Decimal.wordLimit then
      Decimals.takeFraction { significand, power := decimals.power - 1 } digits
    else decimals

structure Written where
  negative : Bool
  whole : List Nat
  fraction : Option (List Nat)
  exponent : Option Int

def takeDigits (text : List Char) : List Nat × List Char :=
  let (digits, rest) := text.span Char.isDigit
  (digits.filterMap Text.digitOf?, rest)

def numberOf (digits : List Nat) : Nat := digits.foldl (fun number digit => number * 10 + digit) 0

/-- One or more digits; `atEnd` is the fault of a text that ends before the first. -/
def readDigits (atEnd : Fault) : Reader (List Nat) := fun text =>
  match takeDigits text with
  | ([], []) => .error atEnd
  | ([], _ :: _) => .error .malformed
  | (digits, rest) => .ok (digits, rest)

def readWhole (atEnd : Fault) : Reader (List Nat) := fun text =>
  match readDigits atEnd text with
  | .ok (0 :: _ :: _, _) => .error .malformed
  | result => result

def readExponent (atEnd : Fault) : Reader Int := fun text => do
  match text with
  | '-' :: rest =>
    let (digits, rest) ← readDigits atEnd rest
    return (-(numberOf digits : Int), rest)
  | '+' :: rest =>
    let (digits, rest) ← readDigits atEnd rest
    return (numberOf digits, rest)
  | _ =>
    let (digits, rest) ← readDigits atEnd text
    return (numberOf digits, rest)

def readWritten (atEnd : Fault) : Reader Written := fun text => do
  let (negative, text) := match text with
    | '-' :: rest => (true, rest)
    | _ => (false, text)
  let (whole, text) ← readWhole atEnd text
  let (fraction, text) ← match text with
    | '.' :: rest => do
      let (digits, rest) ← readDigits atEnd rest
      pure (some digits, rest)
    | _ => pure (none, text)
  let (exponent, text) ← match text with
    | 'e' :: rest => do
      let (power, rest) ← readExponent atEnd rest
      pure (some power, rest)
    | 'E' :: rest => do
      let (power, rest) ← readExponent atEnd rest
      pure (some power, rest)
    | _ => pure (none, text)
  return ({ negative, whole, fraction, exponent }, text)

/-- The double that a written number denotes. The significand is rounded first and then scaled;
nothing stands for a number beyond the largest double. -/
def Written.double? (written : Written) : Option Decimal.Binary64 :=
  let whole := Decimals.takeWhole { significand := 0, power := 0 } written.whole
  let decimals := match written.fraction with
    | some digits => whole.takeFraction digits
    | none => whole
  let power := decimals.power + written.exponent.getD 0
  let magnitude := (Decimal.Binary64.nearest decimals.significand 1).bind (·.scaledByTen power)
  magnitude.map fun number => { number with negative := written.negative }

/-- A number without fraction and exponent is an integer if it fits, except minus zero. -/
def Written.value? (written : Written) : Option Json :=
  let magnitude := numberOf written.whole
  let plain := written.fraction.isNone && written.exponent.isNone
  if plain && !written.negative && magnitude < Decimal.wordLimit then some (integer magnitude)
  else if plain && written.negative && 0 < magnitude && magnitude ≤ Decimal.signedLimit then
    some (integer (-magnitude))
  else written.double?.map double

def readNumber : Reader Json := fun text => do
  let (written, rest) ← readWritten .truncated text
  match written.value? with
  | some value => return (value, rest)
  | none => throw .malformed

/-! Strings. -/

/-- Four hexadecimal digits. A text with fewer than four bytes left has ended too early. -/
def readUnit : Reader Nat := fun text =>
  match text with
  | first :: second :: third :: fourth :: rest =>
    match Text.hexDigit? first, Text.hexDigit? second, Text.hexDigit? third,
        Text.hexDigit? fourth with
    | some first, some second, some third, some fourth =>
      .ok (((first * 16 + second) * 16 + third) * 16 + fourth, rest)
    | _, _, _, _ => .error .malformed
  | short =>
    if (String.ofList short).utf8ByteSize < 4 then .error .truncated else .error .malformed

/-- The second half of a character that is written as two units. -/
def readLowUnit (high : Nat) : Reader Char := fun text =>
  match text with
  | [] => .error .truncated
  | ['\\'] => .error .truncated
  | '\\' :: 'u' :: rest => do
    let (low, rest) ← readUnit rest
    if 0xDC00 ≤ low && low ≤ 0xDFFF then
      return (Char.ofNat (0x10000 + (high - 0xD800) * 0x400 + (low - 0xDC00)), rest)
    else throw .malformed
  | _ => .error .malformed

def readEscape : Reader Char := fun text =>
  match text with
  | [] => .error .truncated
  | '"' :: rest => .ok ('"', rest)
  | '\\' :: rest => .ok ('\\', rest)
  | '/' :: rest => .ok ('/', rest)
  | 'b' :: rest => .ok (Char.ofNat 8, rest)
  | 'f' :: rest => .ok (Char.ofNat 12, rest)
  | 'n' :: rest => .ok ('\n', rest)
  | 'r' :: rest => .ok ('\r', rest)
  | 't' :: rest => .ok ('\t', rest)
  | 'u' :: rest => do
    let (unit, rest) ← readUnit rest
    if 0xDC00 ≤ unit && unit ≤ 0xDFFF then throw .malformed
    else if 0xD800 ≤ unit && unit ≤ 0xDBFF then readLowUnit unit rest
    else return (Char.ofNat unit, rest)
  | _ => .error .malformed

/-- The characters up to the closing quote, of which there are at most `fuel`. -/
def readCharacters (escape : Reader Char) : Nat → Reader (List Char)
  | 0, _ => .error .truncated
  | _ + 1, [] => .error .truncated
  | _ + 1, '"' :: rest => .ok ([], rest)
  | fuel + 1, '\\' :: rest => do
    let (character, rest) ← escape rest
    let (characters, rest) ← readCharacters escape fuel rest
    return (character :: characters, rest)
  | fuel + 1, character :: rest =>
    if character.toNat < 32 then .error .malformed
    else do
      let (characters, rest) ← readCharacters escape fuel rest
      return (character :: characters, rest)

def readString (escape : Reader Char) : Reader String := fun text => do
  let (characters, rest) ← readCharacters escape (text.length + 1) text
  return (String.ofList characters, rest)

/-! Arrays and objects. -/

def nextItem (first : Bool) (text : List Char) : Except Fault (Option (List Char)) :=
  match skipBlanks text with
  | [] => .error .truncated
  | ']' :: _ => .ok none
  | ',' :: rest =>
    if first then .ok (some (',' :: rest))
    else match skipBlanks rest with
      | [] => .error .truncated
      | ']' :: _ => .error .malformed
      | item => .ok (some item)
  | item => if first then .ok (some item) else .error .malformed

def readItems {α : Type} (item : Reader α) : Nat → Bool → Reader (List α)
  | 0, _, _ => .error .truncated
  | fuel + 1, first, text => do
    match ← nextItem first text with
    | none => return ([], (skipBlanks text).tail)
    | some text =>
      let (value, text) ← item text
      let (values, text) ← readItems item fuel false text
      return (value :: values, text)

/-- Steps past the quote of the next key of an object, or returns nothing at its closing brace. -/
def nextKey (first : Bool) (text : List Char) : Except Fault (Option (List Char)) :=
  match skipBlanks text with
  | [] => .error .truncated
  | '\x7d' :: _ => .ok none
  | ',' :: rest =>
    if first then .error .malformed
    else match skipBlanks rest with
      | [] => .error .truncated
      | '"' :: key => .ok (some key)
      | _ => .error .malformed
  | '"' :: key => if first then .ok (some key) else .error .malformed
  | _ => .error .malformed

def readColon (text : List Char) : Except Fault (List Char) :=
  match skipBlanks text with
  | [] => .error .truncated
  | ':' :: rest => .ok rest
  | _ => .error .malformed

def readMembers {σ : Type} (key : Reader String) (member : σ → String → Reader σ) :
    Nat → Bool → σ → Reader σ
  | 0, _, _, _ => .error .truncated
  | fuel + 1, first, state, text => do
    match ← nextKey first text with
    | none => return (state, (skipBlanks text).tail)
    | some text =>
      let (name, text) ← key text
      let (state, text) ← member state name text
      readMembers key member fuel false state text

structure Leaves where
  text : Reader String
  number : Reader Json

def kept : Leaves := { text := readString readEscape, number := readNumber }

def readValueWith (leaves : Leaves) (inner : Option (Reader Json)) : Reader Json := fun text =>
  match skipBlanks text with
  | [] => .error .truncated
  | 'n' :: rest => readWord null ['u', 'l', 'l'] rest
  | 't' :: rest => readWord (bool true) ['r', 'u', 'e'] rest
  | 'f' :: rest => readWord (bool false) ['a', 'l', 's', 'e'] rest
  | '"' :: rest => do
    let (value, rest) ← leaves.text rest
    return (string value, rest)
  | '[' :: rest =>
    match inner with
    | none => .error .malformed
    | some inner => do
      let (items, rest) ← readItems inner (rest.length + 1) true rest
      return (array items, rest)
  | '\x7b' :: rest =>
    match inner with
    | none => .error .malformed
    | some inner => do
      let member (members : List (String × Json)) (key : String) : Reader _ := fun text => do
        let (value, text) ← inner (← readColon text)
        return (Rows.put key value members, text)
      let (members, rest) ← readMembers leaves.text member (rest.length + 1) true [] rest
      return (object members, rest)
  | character :: rest =>
    if character == '-' || character.isDigit then leaves.number (character :: rest)
    else .error .malformed

/-- Reads a value with at most `depth` arrays and objects inside each other. -/
def readValue (leaves : Leaves) : Nat → Reader Json
  | 0 => readValueWith leaves none
  | depth + 1 => readValueWith leaves (some (readValue leaves depth))

def maxDepth : Nat := 127

/-- Only blanks may follow what was read. -/
def complete {α : Type} (result : Except Fault (α × List Char)) : Except Fault α := do
  let (value, rest) ← result
  if (skipBlanks rest).isEmpty then return value else throw .malformed

def parse (text : String) : Except Fault Json :=
  complete (readValue kept maxDepth text.toList)

/-- Refuses a value of the wrong shape, after any fault inside a string, number or word. -/
def refuse {α : Type} : Reader α := fun text =>
  match skipBlanks text with
  | '[' :: _ => .error .mismatched
  | '\x7b' :: _ => .error .mismatched
  | text => do
    let _ ← readValueWith kept none text
    throw .mismatched

/-- Reads a text that must hold an array. -/
def parseList (text : String) : Except Fault (List Json) :=
  complete <| match skipBlanks text.toList with
    | '[' :: rest => readItems (readValue kept (maxDepth - 1)) (rest.length + 1) true rest
    | text => refuse text

/-! Members that nobody asked for. -/

/-- An escape is skipped without asking which character it stands for. -/
def skipEscape : Reader Char := fun text =>
  match text with
  | 'u' :: rest => do
    let (_, rest) ← readUnit rest
    return ('?', rest)
  | _ => readEscape text

/-- A skipped number may be of any size, and must not end early. -/
def skipNumber : Reader Json := fun text => do
  let (_, rest) ← readWritten .malformed text
  return (null, rest)

def skipValue : Reader Unit := fun text => do
  let leaves : Leaves := { text := readString skipEscape, number := skipNumber }
  let (_, rest) ← readValue leaves text.length text
  return ((), rest)

end Rota.Json
