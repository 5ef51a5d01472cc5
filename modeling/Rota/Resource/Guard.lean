import Rota.Resource.Status
import Rota.Text.Blank

/-!
Guards that are asked before the transition table: the protection of demo resources, and the
gateway's read-only mode.
-/

namespace Rota.Resource

structure Demo where
  enabled : Bool := false
  warning : String := "operation not allowed in demo mode"
  protectedIds : List String := []
deriving DecidableEq, Repr

namespace Demo

/-- Reads a list of protected ids written with semicolons; repeated ids count once. -/
def parseProtected (text : String) : List String := (Text.items ';' text).eraseDups

def protects (demo : Demo) (resource : String) : Bool :=
  demo.enabled && demo.protectedIds.contains resource

end Demo

structure Guard where
  readOnly : Bool := false
  demo : Option Demo := none
deriving DecidableEq, Repr

namespace Guard

def permissive : Guard := {}

/-- A demo configuration counts only while it is enabled. -/
def activeDemo (demo : Demo) : Option Demo := if demo.enabled then some demo else none

def ofSettings (demo : Demo) (readOnly : Bool) : Guard := { readOnly, demo := activeDemo demo }

def withReadOnly (guard : Guard) (readOnly : Bool) : Guard := { guard with readOnly }

def withDemo (guard : Guard) (demo : Demo) : Guard := { guard with demo := activeDemo demo }

/-- Demo protection is asked before read-only mode. -/
def check (guard : Guard) (resource : Snapshot) : Except StatusError Unit :=
  match guard.demo.filter (·.protects resource.id) with
  | some demo => .error (.demoProtected resource.id demo.warning)
  | none => if guard.readOnly then .error .readOnly else .ok ()

end Guard

end Rota.Resource
