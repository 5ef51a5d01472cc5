import Rota.Election.Cluster

/-!
Vigils: callers who wait for an elector to lead and then watch its term, or who wait for it to
stop.
-/

namespace Rota.Election

inductive Vigil where
  | awaitingTerm
  | watching (term : Term)
  | termEnded
  | awaitingStop
  | stopSeen
deriving DecidableEq, Repr

namespace Vigil

/-- What a caller makes of an elector that has come to rest. A caller who finds it stopped
is handed a term that has already ended. -/
def look (elector : Elector) : Vigil → Vigil
  | awaitingTerm =>
    match elector.standing with
    | .leader term => watching term
    | .stopped => termEnded
    | .follower => awaitingTerm
  | watching term => if elector.endedTerms.contains term then termEnded else watching term
  | termEnded => termEnded
  | awaitingStop => if elector.hasStopped then stopSeen else awaitingStop
  | stopSeen => stopSeen

def text : Vigil → String
  | awaitingTerm => "waiting"
  | watching _ => "leading"
  | termEnded => "ended"
  | awaitingStop => "waiting"
  | stopSeen => "stopped"

end Vigil

structure Watch where
  name : String
  replica : Nat
  vigil : Vigil
deriving DecidableEq, Repr

def Watch.look (cluster : Cluster) (watch : Watch) : Watch :=
  match cluster.elector? watch.replica with
  | none => watch
  | some elector => { watch with vigil := watch.vigil.look elector }

end Rota.Election
