/-!
Numerals: reading an unsigned number below a bound, and writing digits with a fixed width.
-/

namespace Rota.Text

def digitOf? (character : Char) : Option Nat :=
  if '0' ≤ character && character ≤ '9' then some (character.toNat - '0'.toNat) else none

def digits? (text : List Char) : Option Nat :=
  text.foldlM (fun number character => (digitOf? character).map (number * 10 + ·)) 0

inductive NumeralFault where
  | empty
  | strayCharacter
  | tooLarge
deriving DecidableEq, Repr

def NumeralFault.message : NumeralFault → String
  | empty => "cannot parse integer from empty string"
  | strayCharacter => "invalid digit found in string"
  | tooLarge => "number too large to fit in target type"

/-- Appends digits to those of a number that stays below the bound. -/
def appendDigits (bound number : Nat) : List Char → Except NumeralFault Nat
  | [] => .ok number
  | character :: rest =>
    match digitOf? character with
    | none => .error .strayCharacter
    | some digit =>
      if number * 10 + digit < bound then appendDigits bound (number * 10 + digit) rest
      else .error .tooLarge

/-- One or more digits, after at most one plus sign, that denote a number below the bound. -/
def readNatural (bound : Nat) (text : List Char) : Except NumeralFault Nat :=
  match text with
  | [] => .error .empty
  | ['+'] => .error .strayCharacter
  | '+' :: digits => appendDigits bound 0 digits
  | digits => appendDigits bound 0 digits

def natural? (bound : Nat) (text : List Char) : Option Nat := (readNatural bound text).toOption

def hexDigit? (character : Char) : Option Nat :=
  if '0' ≤ character && character ≤ '9' then some (character.toNat - '0'.toNat)
  else if 'a' ≤ character && character ≤ 'f' then some (character.toNat - 'a'.toNat + 10)
  else if 'A' ≤ character && character ≤ 'F' then some (character.toNat - 'A'.toNat + 10)
  else none

/-- The digits of a number, padded on the left with zeros up to a width. -/
def padded (width number : Nat) : String :=
  let digits := Nat.toDigits 10 number
  String.ofList (List.replicate (width - digits.length) '0' ++ digits)

/-- The digits of a number in base two, padded with zeros to eight places. -/
def octet (number : Nat) : String :=
  let digits := Nat.toDigits 2 number
  String.ofList (List.replicate (8 - digits.length) '0' ++ digits)

end Rota.Text
