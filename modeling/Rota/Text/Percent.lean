import Rota.Text.Blank
import Rota.Text.Numeral
import Rota.Text.Utf8

/-!
Percent escapes, and lists of parameters `name=value&name=value` that are written with them.
-/

namespace Rota.Text

def bytesOf (text : List Char) : List UInt8 := (String.ofList text).toUTF8.toList

/-- The bytes that a text with escapes stands for. A percent sign without two hexadecimal digits
after it stands for itself. -/
def percentBytes : List Char → List UInt8
  | [] => []
  | '%' :: high :: low :: rest =>
    match hexDigit? high, hexDigit? low with
    | some upper, some lower => UInt8.ofNat (upper * 16 + lower) :: percentBytes rest
    | _, _ => '%'.toUInt8 :: percentBytes (high :: low :: rest)
  | character :: rest => bytesOf [character] ++ percentBytes rest

def percentDecoded (text : List Char) : Except Utf8Fault String := decodeUtf8 (percentBytes text)

/-- The names and values of parameters as they are written. A piece without an equals sign has an
empty value, and an empty piece is none. -/
def rawParameters (text : List Char) : List (List Char × List Char) :=
  let pieces := (cutAt (· == '&') text).filter fun piece => !piece.isEmpty
  pieces.map fun piece => (piece.takeWhile (· != '='), (piece.dropWhile (· != '=')).drop 1)

def formDecoded (text : List Char) : String :=
  decodeLeniently (percentBytes (text.map fun character =>
    if character == '+' then ' ' else character))

def parameters (text : List Char) : List (String × String) :=
  (rawParameters text).map fun (name, value) => (formDecoded name, formDecoded value)

end Rota.Text
