/-!
Blank characters, and the ways in which a text is cut: at blanks, at a separator, and
at both ends.
-/

namespace Rota.Text

/-- Exactly the 25 characters with the White_Space property are blank. -/
def isBlank (character : Char) : Bool :=
  let code := character.toNat
  (9 ≤ code && code ≤ 13) || code == 0x20 || code == 0x85 || code == 0xA0 || code == 0x1680 ||
    (0x2000 ≤ code && code ≤ 0x200A) || code == 0x2028 || code == 0x2029 || code == 0x202F ||
    code == 0x205F || code == 0x3000

/-- Drops the blanks at both ends. -/
def trimmed (text : List Char) : List Char :=
  ((text.dropWhile isBlank).reverse.dropWhile isBlank).reverse

def trimmedEnd (text : String) : String :=
  String.ofList (text.toList.reverse.dropWhile isBlank).reverse

/-- Cuts at every marked character; a text without one is a single piece. -/
def cutAt (mark : Char → Bool) : List Char → List (List Char)
  | [] => [[]]
  | character :: rest =>
    if mark character then [] :: cutAt mark rest
    else match cutAt mark rest with
      | [] => [[character]]
      | piece :: pieces => (character :: piece) :: pieces

theorem cutAt_ne_nil (mark : Char → Bool) (text : List Char) : cutAt mark text ≠ [] := by
  cases text with
  | nil => simp [cutAt]
  | cons character rest =>
    simp only [cutAt]
    split
    · simp
    · split <;> simp

def words (text : List Char) : List (List Char) :=
  (cutAt isBlank text).filter (fun piece => !piece.isEmpty)

/-- The items of a list written with a separator: trimmed, and without the blank ones. -/
def items (separator : Char) (text : String) : List String :=
  let pieces := (cutAt (· == separator) text.toList).map trimmed
  (pieces.filter fun piece => !piece.isEmpty).map String.ofList

/-- Replaces the occurrences of a pattern that start after the next `skipped` characters. -/
def replaceAfter (pattern replacement : List Char) : Nat → List Char → List Char
  | _, [] => []
  | skipped + 1, _ :: rest => replaceAfter pattern replacement skipped rest
  | 0, character :: rest =>
    if pattern.isPrefixOf (character :: rest) then
      replacement ++ replaceAfter pattern replacement (pattern.length - 1) rest
    else character :: replaceAfter pattern replacement 0 rest

def replaceAll (pattern replacement : String) (text : List Char) : List Char :=
  replaceAfter pattern.toList replacement.toList 0 text

end Rota.Text
