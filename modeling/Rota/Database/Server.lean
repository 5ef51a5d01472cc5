import Rota.Database.Storage
import Rota.Settings

/-!
Databases behind a server: the URL of the server, what the environment adds to it, and what stands
between a replica and the server. A host is an address or a name, or else the folder of a socket.
-/

namespace Rota.Database

structure Server where
  host : String := "localhost"
  port : Nat := 5432
  /-- The folder of a socket, which counts before the host. -/
  socket : Option String := none
deriving DecidableEq, Repr

namespace Server

def variableNames : List String := ["PGHOSTADDR", "PGHOST", "PGPORT"]

def portLimit : Nat := 65536

def ofEnvironment (environment : Environment) : Server :=
  let start : Server := {}
  let host := (environment.text? "PGHOSTADDR").orElse fun _ => environment.text? "PGHOST"
  let port := (environment.text? "PGPORT").bind fun text => Text.natural? portLimit text.toList
  { start with host := host.getD start.host, port := port.getD start.port }

def encryptionModes : List String :=
  ["disable", "allow", "prefer", "require", "verify-ca", "verify-full"]

def decoded (text : List Char) : Except Misconfiguration String :=
  (Text.percentDecoded text).mapError .undecodable

def number (limit : Nat) (text : String) : Except Misconfiguration Nat :=
  (Text.readNatural limit text.toList).mapError .numeral

def withHost (server : Server) (host : List Char) : Except Misconfiguration Server :=
  if host.isEmpty then .ok server
  else if (Text.percentBytes host).head? == some '/'.toUInt8 then do
    return { server with socket := some (← decoded host) }
  else .ok { server with host := String.ofList host }

/-- Encryption changes nothing about where a server is looked for. -/
def withEncryption (server : Server) (mode : String) : Except Misconfiguration Server :=
  if encryptionModes.contains (String.ofList (mode.toList.map Char.toLower)) then .ok server
  else .error (.unknownEncryption mode)

def withParameter (server : Server) (parameter : String × String) :
    Except Misconfiguration Server := do
  let (name, value) := parameter
  match name with
  | "sslmode" => server.withEncryption value
  | "ssl-mode" => server.withEncryption value
  | "statement-cache-capacity" =>
    discard (number Decimal.wordLimit value)
    return server
  | "host" =>
    if value.toList.head? == some '/' then return { server with socket := some value }
    else return { server with host := value }
  | "hostaddr" =>
    if Network.isAddress value.toList then return { server with host := value }
    else throw .networkAddress
  | "port" => return { server with port := ← number portLimit value }
  | _ => return server

/-- Reads the URL of a server. The first fault in the order host, user, password, path and
parameters counts. -/
def parse (environment : Environment) (address : String) : Except Misconfiguration Server := do
  let url ← (Network.Url.parse address).mapError .url
  let server ← (ofEnvironment environment).withHost url.host
  let server := { server with port := url.port.getD server.port }
  discard (decoded url.username)
  discard (decoded url.password)
  discard (decoded (url.path.dropWhile (· == '/')))
  (Text.parameters url.query).foldlM withParameter server

def socketFolder? (server : Server) : Option String :=
  match server.socket with
  | some folder => some folder
  | none => if server.host.toList.head? == some '/' then some server.host else none

/-- The bytes of a socket path must be fewer. -/
def socketPathLimit : Nat := 108

def socketObstacle (files : Files) (path : String) : Obstacle :=
  if path.toList.contains '\x00' then .zeroInSocketPath
  else if socketPathLimit ≤ path.utf8ByteSize then .longSocketPath
  else if (files.follow [] (namesOf path)).isSome then .noSocket
  else .noFolder

def isLoopback (host : List Char) : Bool :=
  match Network.colons? host, Network.hostAddress? host with
  | some groups, _ => groups.dropLast.all (· == 0) && groups.getLastD 0 ≤ 1
  | none, some address => address / Decimal.twoTo 24 == 127 || address == 0
  | none, none => host == "localhost".toList

def isNumeric (host : List Char) : Bool :=
  (Network.colons? host).isSome || (Network.hostAddress? host).isSome

def fault (server : Server) (files : Files) : Fault :=
  match server.socketFolder? with
  | some folder =>
    .obstructed (socketObstacle files (folder ++ "/.s.PGSQL." ++ toString server.port))
  | none =>
    let isBracket (character : Char) : Bool := character == '[' || character == ']'
    let host := server.host.toList.filter (!isBracket ·)
    if isLoopback host then .timedOut
    else if isNumeric host then .obstructed .noNetwork
    else .obstructed .noName

end Server

end Rota.Database
