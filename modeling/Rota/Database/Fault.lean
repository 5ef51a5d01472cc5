import Rota.Network.Url
import Rota.Text.Quoted

/-!
What keeps a replica from its database: an address that cannot be used, a file that is refused
when it is opened or when its tables are made, or a server out of reach.
-/

namespace Rota.Database

inductive Misconfiguration where
  | unknownValue (parameter value : String)
  | unknownParameter (parameter : String)
  | unknownEncryption (mode : String)
  | undecodable (fault : Text.Utf8Fault)
  | url (fault : Network.UrlFault)
  | numeral (fault : Text.NumeralFault)
  | networkAddress
deriving DecidableEq, Repr

inductive Refusal where
  | foreignAuthority (authority : String)
  | unknownMode (kind mode : String)
  | forbiddenMode (mode : String)
  | unknownStorage (name : String)
  | readOnly
  | cannotOpen
  | unreadable
  | notDatabase
deriving DecidableEq, Repr

inductive Obstacle where
  | zeroInFileName
  | zeroInSocketPath
  | longSocketPath
  | noSocket
  | noFolder
  | noNetwork
  | noName
deriving DecidableEq, Repr

inductive Fault where
  | configuration (reason : Misconfiguration)
  | refused (refusal : Refusal)
  | refusedTables (refusal : Refusal)
  | obstructed (obstacle : Obstacle)
  | timedOut
deriving DecidableEq, Repr

/-- What lies behind a fault, the fault itself first. -/
abbrev Report := List String

def configurationReport (reason : Report) : Report :=
  ("error with configuration: " ++ reason.headD "") :: reason

def unknownValueText (parameter value : String) : String :=
  "unknown value " ++ Text.quoted value ++ " for `" ++ parameter ++ "`"

def Misconfiguration.report : Misconfiguration → Report
  | unknownValue parameter value => [unknownValueText parameter value]
  | unknownParameter parameter =>
    ["unknown query parameter `" ++ parameter ++ "` while parsing connection URL"]
  | unknownEncryption mode => configurationReport [unknownValueText "ssl_mode" mode]
  | undecodable fault => [fault.message]
  | url fault => [fault.message]
  | numeral fault => [fault.message]
  | networkAddress => ["invalid IP address syntax"]

namespace Refusal

def code : Refusal → Nat
  | foreignAuthority _ => 1
  | unknownMode _ _ => 1
  | forbiddenMode _ => 3
  | unknownStorage _ => 1
  | readOnly => 8
  | cannotOpen => 14
  | unreadable => 266
  | notDatabase => 26

def reason : Refusal → String
  | foreignAuthority authority => "invalid uri authority: " ++ authority
  | unknownMode kind mode => "no such " ++ kind ++ " mode: " ++ mode
  | forbiddenMode mode => "access mode not allowed: " ++ mode
  | unknownStorage name => "no such vfs: " ++ name
  | readOnly => "attempt to write a readonly database"
  | cannotOpen => "unable to open database file"
  | unreadable => "disk I/O error"
  | notDatabase => "file is not a database"

def report (refusal : Refusal) : Report :=
  let reason := "(code: " ++ toString refusal.code ++ ") " ++ refusal.reason
  ["error returned from database: " ++ reason, reason]

end Refusal

def Obstacle.reason : Obstacle → String
  | zeroInFileName => "filename passed to SQLite must not contain nul bytes"
  | zeroInSocketPath => "paths must not contain interior null bytes"
  | longSocketPath => "path must be shorter than SUN_LEN"
  | noSocket => "No such file or directory (os error 2)"
  | noFolder => "Not a directory (os error 20)"
  | noNetwork => "Network is unreachable (os error 101)"
  | noName =>
    "failed to lookup address information: Temporary failure in name resolution"

def Fault.report : Fault → Report
  | configuration reason => configurationReport reason.report
  | refused refusal => refusal.report
  | refusedTables refusal =>
    ("while executing migrations: " ++ refusal.report.headD "") :: refusal.report
  | obstructed obstacle =>
    ["error communicating with database: " ++ obstacle.reason, obstacle.reason]
  | timedOut => ["pool timed out while waiting for an open connection"]

end Rota.Database
