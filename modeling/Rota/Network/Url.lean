import Rota.Network.Address
import Rota.Text.Percent

/-!
URLs: a scheme, and after it an authority, a path and a query. The schemes of the web are special:
a backslash counts as a slash, and their hosts are names or addresses of the Internet. All other
hosts are opaque.
-/

namespace Rota.Network

open Rota.Text

inductive UrlFault where
  | relative
  | emptyHost
  | invalidPort
  | invalidIpv4
  | invalidIpv6
  | invalidDomainCharacter
  | invalidInternationalName
deriving DecidableEq, Repr

def UrlFault.message : UrlFault → String
  | relative => "relative URL without a base"
  | emptyHost => "empty host"
  | invalidPort => "invalid port number"
  | invalidIpv4 => "invalid IPv4 address"
  | invalidIpv6 => "invalid IPv6 address"
  | invalidDomainCharacter => "invalid domain character"
  | invalidInternationalName => "invalid international domain name"

/-- A URL whose parts keep their percent escapes. -/
structure Url where
  scheme : String
  username : List Char := []
  password : List Char := []
  host : List Char := []
  port : Option Nat := none
  path : List Char := []
  query : List Char := []
deriving DecidableEq, Repr

inductive SchemeKind where
  | file
  | special
  | plain
deriving DecidableEq, Repr

def SchemeKind.of (scheme : String) : SchemeKind :=
  if scheme == "file" then file
  else if ["http", "https", "ws", "wss", "ftp"].contains scheme then special
  else plain

namespace SchemeKind

def isSpecial (kind : SchemeKind) : Bool := kind != plain

def isSlash (kind : SchemeKind) (character : Char) : Bool :=
  character == '/' || (kind.isSpecial && character == '\\')

end SchemeKind

namespace Url

/-- Controls and spaces at both ends do not count, and neither do tabs and line ends anywhere. -/
def cleaned (text : List Char) : List Char :=
  let isMargin (character : Char) : Bool := character.toNat ≤ 0x20
  let inner := ((text.dropWhile isMargin).reverse.dropWhile isMargin).reverse
  inner.filter fun character => !(['\t', '\n', '\r'].contains character)

def readScheme (text : List Char) : Option (String × List Char) :=
  let (scheme, rest) := text.span fun character =>
    character.isAlphanum || ['+', '-', '.'].contains character
  match scheme, rest with
  | first :: _, ':' :: rest =>
    if first.isAlpha then some (String.ofList (scheme.map Char.toLower), rest) else none
  | _, _ => none

/-! Hosts. -/

def isForbiddenInHost (character : Char) : Bool :=
  ['\x00', ' ', '#', '/', ':', '<', '>', '?', '@', '[', '\\', ']', '^', '|'].contains character

def isForbiddenInDomain (character : Char) : Bool :=
  isForbiddenInHost character || character == '%' || character.toNat ≤ 0x20 ||
    (0x7F ≤ character.toNat && character.toNat ≤ 0x9F) || isBlank character ||
    character == '\uFFFD'

/-- An encoded label has letters or digits after its last hyphen. -/
def isLabel (label : List Char) : Bool :=
  if "xn--".toList.isPrefixOf label then
    let tail := label.reverse.takeWhile (· != '-')
    !tail.isEmpty && tail.all Char.isAlphanum
  else true

def domain? (host : List Char) : Option (List Char) :=
  match percentDecoded host with
  | .error _ => none
  | .ok name =>
    let name := name.toList.map Char.toLower
    if name.any isForbiddenInDomain || !(labels name).all isLabel then none else some name

def checkBracketed (host : List Char) : Except UrlFault (List Char) :=
  if host.getLast? == some ']' && (colons? (host.drop 1).dropLast).isSome then .ok host
  else .error .invalidIpv6

def checkHost (kind : SchemeKind) (host : List Char) : Except UrlFault (List Char) :=
  if host.head? == some '[' then checkBracketed host
  else if kind.isSpecial then
    match domain? host with
    | none => .error .invalidInternationalName
    | some [] => .error .emptyHost
    | some name =>
      if endsInNumber name && (hostAddress? name).isNone then .error .invalidIpv4 else .ok name
  else if host.any isForbiddenInHost then .error .invalidDomainCharacter
  else .ok host

def cutAtPort (inside : Bool) : List Char → List Char × List Char
  | [] => ([], [])
  | character :: rest =>
    if character == ':' && !inside then ([], character :: rest)
    else
      let inside := character == '[' || (inside && character != ']')
      let (host, port) := cutAtPort inside rest
      (character :: host, port)

def readPort (text : List Char) : Except UrlFault (Option Nat × List Char) :=
  let (digits, rest) := text.span Char.isDigit
  if !(rest.isEmpty || rest.head? == some '\\') then .error .invalidPort
  else if digits.isEmpty then .ok (none, rest)
  else match natural? 65536 digits with
    | some port => .ok (some port, rest)
    | none => .error .invalidPort

def defaultPort? (scheme : String) : Option Nat :=
  if scheme == "http" || scheme == "ws" then some 80
  else if scheme == "https" || scheme == "wss" then some 443
  else if scheme == "ftp" then some 21
  else none

/-! Paths. -/

def isDot (segment : List Char) : Bool :=
  [".", "%2e"].contains (String.ofList (segment.map Char.toLower))

def isDoubleDot (segment : List Char) : Bool :=
  ["..", ".%2e", "%2e.", "%2e%2e"].contains (String.ofList (segment.map Char.toLower))

/-- Takes segments over in reverse. A dot stays where it is and a double dot goes back; at the end
both leave an empty segment. -/
def resolve (kept : List (List Char)) : List (List Char) → List (List Char)
  | [] => kept.reverse
  | segment :: segments =>
    let place := if isDoubleDot segment then kept.tail else kept
    if isDot segment || isDoubleDot segment then
      resolve (if segments.isEmpty then [] :: place else place) segments
    else resolve (segment :: kept) segments

def pathOf (kind : SchemeKind) (segments : List Char) : List Char :=
  (resolve [] (cutAt kind.isSlash segments)).flatMap ('/' :: ·)

/-- The path after an authority. -/
def pathAfter (kind : SchemeKind) (text : List Char) : List Char :=
  match text with
  | [] => if kind.isSpecial then ['/'] else []
  | first :: rest => pathOf kind (if kind.isSlash first then rest else text)

/-! Authorities. -/

/-- The names before the last at sign of an authority, and what follows it. -/
def cutAtUser (authority : List Char) : Option (List Char) × List Char :=
  match (cutAt (· == '@') authority).reverse with
  | host :: first :: rest => (some (['@'].intercalate (first :: rest).reverse), host)
  | _ => (none, authority)

/-- Reads what follows the slashes before an authority. A URL goes on after the text if it has a
query or a fragment. -/
def readAuthority (scheme : String) (text : List Char) (goesOn : Bool) :
    Except UrlFault Url := do
  let kind := SchemeKind.of scheme
  let (authority, rest) := text.span fun character => !kind.isSlash character
  let (user, place) := cutAtUser authority
  if user == some [] && place.isEmpty && (goesOn || !rest.isEmpty) then throw .emptyHost
  let credentials := user.getD []
  let username := credentials.takeWhile (· != ':')
  let password := (credentials.dropWhile (· != ':')).drop 1
  let (host, port) := cutAtPort false place
  if kind.isSpecial && host.isEmpty then throw .emptyHost
  let host ← checkHost kind host
  if host.isEmpty && !port.isEmpty then throw .emptyHost
  let (port, after) ← readPort (port.drop 1)
  if host.isEmpty && !(username.isEmpty && password.isEmpty) then throw .emptyHost
  let port := if port == defaultPort? scheme then none else port
  return { scheme, username, password, host, port, path := pathAfter kind (after ++ rest) }

def readParts (scheme : String) (text : List Char) (goesOn : Bool) : Except UrlFault Url := do
  let kind := SchemeKind.of scheme
  let (slashes, rest) := text.span kind.isSlash
  match kind with
  | .special => readAuthority scheme rest goesOn
  | .file =>
    if 2 ≤ slashes.length then
      let (host, path) := (text.drop 2).span fun character => !kind.isSlash character
      let host ← if host.isEmpty then pure [] else checkHost kind host
      let host := if host == "localhost".toList then [] else host
      return { scheme, host, path := pathAfter kind path }
    else return { scheme, path := pathAfter kind text }
  | .plain =>
    if 2 ≤ slashes.length then readAuthority scheme (text.drop 2) goesOn
    else if slashes.length == 1 then return { scheme, path := pathOf kind rest }
    else return { scheme, path := text }

def parse (text : String) : Except UrlFault Url := do
  let some (scheme, rest) := readScheme (cleaned text.toList)
    | throw .relative
  let (whole, fragment) := rest.span (· != '#')
  let (parts, query) := whole.span (· != '?')
  let url ← readParts scheme parts (!query.isEmpty || !fragment.isEmpty)
  return { url with query := query.drop 1 }

end Url

end Rota.Network
