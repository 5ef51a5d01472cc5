import Rota.Database.Fault

/-!
Databases in one file: the address behind `sqlite:`, its parameters, and the file that it names.
A name that starts with `file:` is a URI with parameters of its own.
-/

namespace Rota.Database

structure FileOptions where
  name : List Char
  inMemory : Bool := false
  readOnly : Bool := false
  creates : Bool := false
  immutable : Bool := false
  storage : Option String := none
deriving DecidableEq, Repr

def memoryName : List Char := ":memory:".toList

namespace FileOptions

def withParameter (options : FileOptions) (parameter : String × String) :
    Except Misconfiguration FileOptions :=
  let (name, value) := parameter
  let unknown : Except Misconfiguration FileOptions := .error (.unknownValue name value)
  match name with
  | "mode" =>
    match value with
    | "ro" => .ok { options with readOnly := true }
    | "rw" => .ok options
    | "rwc" => .ok { options with creates := true }
    | "memory" => .ok { options with inMemory := true }
    | _ => unknown
  | "cache" => if ["private", "shared"].contains value then .ok options else unknown
  | "immutable" =>
    if ["true", "1"].contains value then .ok { options with immutable := true }
    else if ["false", "0"].contains value then .ok { options with immutable := false }
    else unknown
  | "vfs" => .ok { options with storage := some value }
  | _ => .error (.unknownParameter name)

def withoutScheme (scheme : List Char) (text : List Char) : Nat → List Char
  | 0 => text
  | fuel + 1 =>
    if scheme.isPrefixOf text then withoutScheme scheme (text.drop scheme.length) fuel else text

/-- Drops the schemes before a name; those with slashes come first. -/
def schemeless (address : List Char) : List Char :=
  let short := withoutScheme "sqlite://".toList address address.length
  withoutScheme "sqlite:".toList short short.length

def ofName (name : List Char) : Except Misconfiguration FileOptions :=
  if name == memoryName then .ok { name, inMemory := true }
  else match Text.percentDecoded name with
    | .ok name => .ok { name := name.toList }
    | .error fault => .error (.undecodable fault)

def parse (address : String) : Except Misconfiguration FileOptions := do
  let (name, rest) := (schemeless address.toList).span (· != '?')
  (Text.parameters (rest.drop 1)).foldlM withParameter (← ofName name)

end FileOptions

inductive Access where
  | none
  | readOnly
  | readWrite
  | create
deriving DecidableEq, Repr

def Access.rank : Access → Nat
  | none => 0
  | readOnly => 1
  | readWrite => 2
  | create => 6

structure Target where
  path : String
  access : Access
  inMemory : Bool
  immutable : Bool := false
  storage : String := "unix"
deriving DecidableEq, Repr

namespace Target

/-- The bytes before the first zero. -/
def beforeZero (bytes : List UInt8) : String :=
  Text.decodeLeniently (bytes.takeWhile (· != 0))

def isNumberTrue (digits : List Char) : Bool :=
  (Text.natural? (Decimal.twoTo 31) digits).any (· % 256 != 0)

/-- A switch is on if it says so, or begins with a number that has a bit in its lowest byte. -/
def isOn (value : String) : Bool :=
  let text := value.toList.map Char.toLower
  let digits := text.takeWhile Char.isDigit
  if digits.isEmpty then ["on", "yes", "true"].contains (String.ofList text)
  else isNumberTrue digits

/-- A parameter of a file URI. Without memory in the target a mode may not grant more than there
is already. -/
def withUriParameter (target : Target) (parameter : String × String) :
    Except Refusal Target :=
  let (name, value) := parameter
  let grant (access : Access) : Except Refusal Target :=
    if access.rank ≤ target.access.rank || target.inMemory then
      .ok { target with access, inMemory := false }
    else .error (.forbiddenMode value)
  match name with
  | "vfs" => .ok { target with storage := value }
  | "cache" =>
    if ["private", "shared"].contains value then .ok target
    else .error (.unknownMode "cache" value)
  | "mode" =>
    match value with
    | "ro" => grant .readOnly
    | "rw" => grant .readWrite
    | "rwc" => grant .create
    | "memory" => .ok { target with access := .none, inMemory := true }
    | _ => .error (.unknownMode "access" value)
  | _ => .ok target

def uriParameters (text : List Char) : List (String × String) :=
  let decoded (part : List Char) : String := beforeZero (Text.percentBytes part)
  let parameters := (Text.rawParameters text).map fun (name, value) =>
    (decoded name, decoded value)
  parameters.filter fun (name, _) => !name.isEmpty

/-- The rest of a file URI after an authority, which can only be this host. -/
def withoutAuthority : List Char → Except Refusal (List Char)
  | '/' :: '/' :: rest =>
    let (authority, path) := rest.span (· != '/')
    if authority.isEmpty || authority == "localhost".toList then .ok path
    else .error (.foreignAuthority (String.ofList authority))
  | rest => .ok rest

def ofUri (target : Target) (rest : List Char) : Except Refusal Target := do
  let text := (← withoutAuthority rest).takeWhile (· != '#')
  let (path, query) := text.span (· != '?')
  let parameters := uriParameters (query.drop 1)
  let immutable := (parameters.find? (·.1 == "immutable")).any fun (_, value) => isOn value
  parameters.foldlM withUriParameter
    { target with path := beforeZero (Text.percentBytes path), immutable }

/-- The target of options. A name that comes with a kind of storage, or cannot change, is taken
as it is, up to a zero; so is the kind of storage, whose spaces turn into plus signs. -/
def ofOptions (options : FileOptions) : Except Fault Target :=
  let access :=
    if options.readOnly then Access.readOnly
    else if options.creates then .create
    else .readWrite
  let path := String.ofList options.name
  let target : Target := { path, access, inMemory := options.inMemory }
  if options.immutable || options.storage.isSome then
    let storage := (options.storage.getD "unix").toList.takeWhile (· != '\x00')
    .ok { target with
      path := String.ofList (options.name.takeWhile (· != '\x00'))
      immutable := options.immutable
      storage := String.ofList (storage.map fun character =>
        if character == ' ' then '+' else character) }
  else if options.name.contains '\x00' then .error (.obstructed .zeroInFileName)
  else if "file:".toList.isPrefixOf options.name then
    (ofUri target (options.name.drop 5)).mapError .refused
  else .ok target

end Target

end Rota.Database
