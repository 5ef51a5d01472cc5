/-!
What an election is about: its settings, the leases of its sessions, and the ways in which a
coordination service fails.
-/

namespace Rota.Election

/-- Milliseconds. -/
abbrev Duration := Nat

abbrev Lease := Int

structure Settings where
  name : String := "apigw"
  retry : Duration := 5000
  lifetime : Duration := 60000
  endpoints : List String := []
deriving DecidableEq, Repr

def Settings.key (settings : Settings) : String := settings.name ++ "-leader-election"

inductive CoordinationError where
  | session (reason : String)
  | campaign (reason : String)
  | query (reason : String)
  | sessionClosed
  | unavailable (reason : String)
deriving DecidableEq, Repr

def CoordinationError.message : CoordinationError → String
  | session reason => "failed to create session: " ++ reason
  | campaign reason => "campaign failed: " ++ reason
  | query reason => "leader query failed: " ++ reason
  | sessionClosed => "session closed"
  | unavailable reason => "coordination service unavailable: " ++ reason

end Rota.Election
