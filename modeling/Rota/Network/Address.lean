import Rota.Decimal.Power
import Rota.Text.Blank
import Rota.Text.Numeral

/-!
Internet addresses in text: four decimal numbers with dots, eight hexadecimal groups with colons,
and the numbers in other bases that name hosts.
-/

namespace Rota.Network

open Rota.Text

/-- A number below 256 without leading zeros. -/
def octet? (text : List Char) : Option Nat :=
  if text.isEmpty || (text.head? == some '0' && 1 < text.length) then none
  else (digits? text).filter (· < 256)

def dotted? (text : List Char) : Option (List Nat) :=
  ((cutAt (· == '.') text).mapM octet?).filter (·.length == 4)

def group? (text : List Char) : Option Nat :=
  if text.isEmpty || 4 < text.length then none
  else text.foldlM (fun number character => (hexDigit? character).map (number * 16 + ·)) 0

/-- Groups with colons between them. An address with dots may stand for the last two of them. -/
def groupsOf : List (List Char) → Option (List Nat)
  | [] => some []
  | [last] =>
    match dotted? last with
    | some [first, second, third, fourth] => some [first * 256 + second, third * 256 + fourth]
    | _ => (group? last).map ([·])
  | piece :: pieces => do return (← group? piece) :: (← groupsOf pieces)

def groups? (text : List Char) : Option (List Nat) :=
  if text.isEmpty then some [] else groupsOf (cutAt (· == ':') text)

/-- What stands before and after the first pair of colons. -/
def cutAtPair : List Char → Option (List Char × List Char)
  | ':' :: ':' :: rest => some ([], rest)
  | character :: rest => (cutAtPair rest).map fun (before, after) => (character :: before, after)
  | [] => none

/-- The eight groups of an address with colons. A pair of colons stands for at least one group
of zeros, and no dots may come before it. -/
def colons? (text : List Char) : Option (List Nat) :=
  match cutAtPair text with
  | none => (groups? text).filter (·.length == 8)
  | some (before, after) => do
    if before.contains '.' then failure
    let front ← groups? before
    let back ← groups? after
    let size := front.length + back.length
    if 7 < size then failure
    return front ++ List.replicate (8 - size) 0 ++ back

def isAddress (text : List Char) : Bool := (dotted? text).isSome || (colons? text).isSome

/-! Numbers that name hosts. -/

/-- A number in the base that its first characters tell: hexadecimal, octal or decimal. -/
def hostNumber? (text : List Char) : Option Nat :=
  let inBase (base : Nat) (digits : List Char) : Option Nat :=
    digits.foldlM (fun number character =>
      ((hexDigit? character).filter (· < base)).map (number * base + ·)) 0
  match text with
  | [] => none
  | '0' :: 'x' :: digits => inBase 16 digits
  | '0' :: 'X' :: digits => inBase 16 digits
  | '0' :: digits => inBase 8 digits
  | digits => inBase 10 digits

/-- The labels of a host name without the empty one after a dot at its end. -/
def labels (host : List Char) : List (List Char) :=
  match (cutAt (· == '.') host).reverse with
  | [] :: last :: rest => (last :: rest).reverse
  | labels => labels.reverse

def endsInNumber (host : List Char) : Bool :=
  match (labels host).getLast? with
  | none => false
  | some last =>
    !last.isEmpty && (last.all Char.isDigit || (hostNumber? last).isSome)

/-- The address that one to four numbers denote; the last of them fills what the others leave. -/
def hostAddress? (host : List Char) : Option Nat := do
  let numbers ← (labels host).mapM hostNumber?
  let last ← numbers.getLast?
  let front := numbers.dropLast
  if 3 < front.length || front.any (255 < ·) then failure
  let free := 8 * (4 - front.length)
  if Decimal.twoTo free ≤ last then failure
  let base := front.foldl (fun number part => number * 256 + part) 0
  return base * Decimal.twoTo free + last

end Rota.Network
