/-!
Bytes as texts in UTF-8: read strictly, up to the first fault, or leniently, with a replacement
character for each fault. A fault is the longest run of bytes that begin a character which does
not follow, or else a single byte.
-/

namespace Rota.Text

inductive Utf8Fault where
  | invalid (size index : Nat)
  | incomplete (index : Nat)
deriving DecidableEq, Repr

def Utf8Fault.message : Utf8Fault → String
  | invalid size index =>
    "invalid utf-8 sequence of " ++ toString size ++ " bytes from index " ++ toString index
  | incomplete index => "incomplete utf-8 byte sequence from index " ++ toString index

/-- The beginning of a character: its bits and bytes so far, the number of bytes that it still
lacks, and the bounds of the next of them. -/
structure Opening where
  bits : Nat
  size : Nat := 1
  lacks : Nat
  least : Nat := 0x80
  greatest : Nat := 0xBF
deriving DecidableEq, Repr

inductive Piece where
  | character (character : Char)
  | invalid (size : Nat)
  | incomplete
deriving DecidableEq, Repr

/-- The beginning of a character of several bytes. Bounds on the second byte leave out surrogates,
numbers above U+10FFFF, and characters that have a shorter form. -/
def opening? (byte : Nat) : Option Opening :=
  if 0xC2 ≤ byte && byte ≤ 0xDF then some { bits := byte - 0xC0, lacks := 1 }
  else if byte == 0xE0 then some { bits := 0, lacks := 2, least := 0xA0 }
  else if byte == 0xED then some { bits := 0xD, lacks := 2, greatest := 0x9F }
  else if 0xE1 ≤ byte && byte ≤ 0xEF then some { bits := byte - 0xE0, lacks := 2 }
  else if byte == 0xF0 then some { bits := 0, lacks := 3, least := 0x90 }
  else if 0xF1 ≤ byte && byte ≤ 0xF3 then some { bits := byte - 0xF0, lacks := 3 }
  else if byte == 0xF4 then some { bits := 4, lacks := 3, greatest := 0x8F }
  else none

/-- A byte after a whole character. -/
def beginWith (byte : Nat) : List Piece × Option Opening :=
  if byte < 0x80 then ([.character (Char.ofNat byte)], none)
  else match opening? byte with
    | some opening => ([], some opening)
    | none => ([.invalid 1], none)

def continueWith (opening : Opening) (byte : Nat) : List Piece × Option Opening :=
  if opening.least ≤ byte && byte ≤ opening.greatest then
    let bits := opening.bits * 64 + (byte - 0x80)
    if opening.lacks ≤ 1 then ([.character (Char.ofNat bits)], none)
    else ([], some { bits, size := opening.size + 1, lacks := opening.lacks - 1 })
  else
    let (pieces, next) := beginWith byte
    (.invalid opening.size :: pieces, next)

def pieces (opening : Option Opening) : List UInt8 → List Piece
  | [] => if opening.isSome then [.incomplete] else []
  | byte :: bytes =>
    let (found, next) := match opening with
      | none => beginWith byte.toNat
      | some opening => continueWith opening byte.toNat
    found ++ pieces next bytes

/-- The characters of pieces that start at an index, unless there is a fault among them. -/
def characters (index : Nat) : List Piece → Except Utf8Fault (List Char)
  | [] => .ok []
  | .character character :: pieces =>
    (characters (index + character.utf8Size) pieces).map (character :: ·)
  | .invalid size :: _ => .error (.invalid size index)
  | .incomplete :: _ => .error (.incomplete index)

def Piece.replaced : Piece → Char
  | character found => found
  | _ => '\uFFFD'

def decodeUtf8 (bytes : List UInt8) : Except Utf8Fault String :=
  (characters 0 (pieces none bytes)).map String.ofList

def decodeLeniently (bytes : List UInt8) : String :=
  String.ofList ((pieces none bytes).map Piece.replaced)

end Rota.Text
