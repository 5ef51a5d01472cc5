import Rota.Settings
import Rota.Text.Alphanumeric
import Rota.Text.Blank

/-!
Files of settings: lines `NAME=value` with quotes, escapes and references to other variables.
What the environment holds counts before what a file says, and an earlier line before a later
one. Reading stops at the first faulty line, and what came before it stays.
-/

namespace Rota.Settings

/-- Where the scan of a line stands: in plain text, just after a blank, after a backslash, or
inside quotes. -/
inductive Place where
  | plain
  | blank
  | escaped
  | quoted (mark : Char)
  | quotedEscape (mark : Char)
deriving DecidableEq, Repr

namespace Place

def afterPlain (character : Char) : Place :=
  if character == '\\' then escaped
  else if character == '"' || character == '\'' then quoted character
  else plain

def next (place : Place) (character : Char) : Place :=
  match place with
  | plain =>
    if Text.isBlank character && character != '\n' && character != '\r' then blank
    else afterPlain character
  | blank => afterPlain character
  | escaped => plain
  | quoted mark =>
    if character == '\\' then quotedEscape mark
    else if character == mark then plain
    else quoted mark
  | quotedEscape mark => quoted mark

end Place

/-- What a line keeps before a comment, and where its scan ends if there is none. A comment
starts at a hash just after a blank. -/
def scan (place : Place) : List Char → List Char × Option Place
  | [] => ([], some place)
  | character :: rest =>
    if place = .blank && character == '#' then ([], none)
    else
      let (kept, final) := scan (place.next character) rest
      (character :: kept, final)

def rawLines : List Char → List (List Char)
  | [] => []
  | '\n' :: rest => ['\n'] :: rawLines rest
  | character :: rest =>
    match rawLines rest with
    | [] => [[character]]
    | line :: lines => (character :: line) :: lines

def isComment (line : List Char) : Bool := (line.dropWhile Text.isBlank).head? == some '#'

/-- Joins the lines that end inside quotes with those that follow. A text that ends inside
quotes, after a backslash or after a blank loses its last line. -/
def joinLines (begun : List Char) (place : Place) : List (List Char) → List (List Char)
  | [] => []
  | line :: lines =>
    if begun.isEmpty && isComment line then joinLines [] .plain lines
    else
      let (kept, final) := scan place line
      let joined := begun ++ kept
      match final with
      | none => joined :: joinLines [] .plain lines
      | some .plain => joined :: joinLines [] .plain lines
      | some place => joinLines joined place lines

/-! Values. -/

/-- How a value is being read: outside quotes, in double quotes, in single quotes, or past its
end; after a backslash; or in the name of a variable, which braces may enclose. -/
inductive Mode where
  | bare
  | quoted
  | literal
  | ended
  | escape (quoted : Bool)
  | reference (quoted : Bool) (name : List Char)
  | braced (quoted : Bool) (name : List Char)

def Mode.within (isQuoted : Bool) : Mode := if isQuoted then .quoted else .bare

def escaped? (character : Char) : Option Char :=
  if character == 'n' then some '\n'
  else if ['\\', '\'', '"', '$', ' '].contains character then some character
  else none

def valueOf (environment : Environment) (name : List Char) : List Char :=
  ((environment.text? (String.ofList name)).getD "").toList

/-- Reads a value. A name without braces consists of letters and numerals, and the character that
ends it is taken as it is. -/
def readValue (environment : Environment) (mode : Mode) : List Char → Option (List Char)
  | [] =>
    match mode with
    | .bare => some []
    | .ended => some []
    | .escape false => some []
    | .reference false name => some (valueOf environment name)
    | _ => none
  | character :: rest =>
    let go (mode : Mode) : Option (List Char) := readValue environment mode rest
    let keep (mode : Mode) : Option (List Char) := (go mode).map (character :: ·)
    match mode with
    | .ended =>
      if character == ' ' || character == '\t' then go .ended
      else if character == '#' then some []
      else none
    | .escape isQuoted =>
      match escaped? character with
      | some meant => (go (.within isQuoted)).map (meant :: ·)
      | none => none
    | .literal => if character == '\'' then go .bare else keep .literal
    | .reference isQuoted name =>
      if Text.isAlphanumeric character then go (.reference isQuoted (name ++ [character]))
      else if character == '\x7b' && name.isEmpty then go (.braced isQuoted [])
      else
        let follow :=
          if character == '$' then go (.reference isQuoted []) else keep (.within isQuoted)
        follow.map (valueOf environment name ++ ·)
    | .braced isQuoted name =>
      if character == '\x7d' then (go (.within isQuoted)).map (valueOf environment name ++ ·)
      else go (.braced isQuoted (name ++ [character]))
    | .quoted =>
      if character == '$' then go (.reference true [])
      else if character == '"' then go .bare
      else if character == '\\' then go (.escape true)
      else keep .quoted
    | .bare =>
      if character == '$' then go (.reference false [])
      else if character == '\'' then go .literal
      else if character == '"' then go .quoted
      else if character == '\\' then go (.escape false)
      else if character == ' ' || character == '\t' then go .ended
      else keep .bare

/-! Lines. -/

inductive Line where
  | empty
  | assignment (name value : String)
  | faulty
deriving DecidableEq, Repr

def readName (text : List Char) : Option (List Char × List Char) :=
  let (name, rest) := text.span fun character =>
    character.isAlphanum || character == '_' || character == '.'
  match name with
  | first :: _ =>
    if first.isAlpha || first == '_' then some (name, rest.dropWhile Text.isBlank) else none
  | [] => none

def readEquals : List Char → Option (List Char)
  | '=' :: rest => some (rest.dropWhile Text.isBlank)
  | _ => none

/-- Reads a name and steps past its equals sign; the word `export` may stand before it. -/
def readTarget (text : List Char) : Option (List Char × List Char) := do
  let (name, rest) ← readName text
  match readEquals rest with
  | some value => return (name, value)
  | none =>
    if name == "export".toList then
      let (name, rest) ← readName rest
      return (name, ← readEquals rest)
    else none

def readLine (environment : Environment) (line : List Char) : Line :=
  let text := Text.trimmed line
  if text.isEmpty || text.head? == some '#' then .empty
  else
    let assignment := do
      let (name, rest) ← readTarget text
      let value ← if rest.head? == some '#' then some [] else readValue environment .bare rest
      return Line.assignment (String.ofList name) (String.ofList value)
    assignment.getD .faulty

/-- An environment with one more variable, unless it is set. -/
def withDefault (environment : Environment) (name value : String) : Environment :=
  if (environment.text? name).isSome then environment
  else fun asked => if asked == name then some value.toUTF8 else environment asked

def takeLines (environment : Environment) : List (List Char) → Environment
  | [] => environment
  | line :: lines =>
    match readLine environment line with
    | .empty => takeLines environment lines
    | .assignment name value => takeLines (withDefault environment name value) lines
    | .faulty => environment

def withFile (environment : Environment) (file : String) : Environment :=
  let text := match file.toList with
    | '\uFEFF' :: rest => rest
    | text => text
  takeLines environment (joinLines [] .plain (rawLines text))

end Rota.Settings
