import Rota.Journal

/-!
Electors: each opens a session, campaigns with it, and leads until the session is lost or the
elector is told to stop. Failures are logged and retried after a pause. An elector is moved by
the signals that it hears; what it asks of the coordination service depends on its phase alone.
-/

namespace Rota.Election

/-- Terms of leadership, numbered from zero by each elector. -/
abbrev Term := Nat

inductive Phase where
  | idle
  | opening
  | openPause (wake : Instant)
  | campaigning (lease : Lease)
  | waiting (lease : Lease)
  | campaignPause (lease : Lease) (wake : Instant)
  | elected (lease : Lease)
  | leading (lease : Lease) (term : Term)
  | closing (lease : Lease)
  | stopped
deriving DecidableEq, Repr

inductive Standing where
  | follower
  | leader (term : Term)
  | stopped
deriving DecidableEq, Repr

inductive Signal where
  | started
  | sessionOpened (lease : Lease)
  | sessionRefused (error : CoordinationError)
  | pauseOver
  | entered
  | campaignRefused (error : CoordinationError)
  | won
  | seated
  | sessionLost
  | cancelSeen
  | sessionClosed (failure : Option CoordinationError)
deriving DecidableEq, Repr

structure Elector where
  candidate : String
  settings : Settings := {}
  phase : Phase := .idle
  cancelled : Bool := false
  standing : Standing := .follower
  terms : Nat := 0
  endedTerms : List Term := []
deriving DecidableEq, Repr

namespace Elector

def key (elector : Elector) : String := elector.settings.key

def isLeader (elector : Elector) : Bool :=
  match elector.standing with
  | .leader _ => true
  | _ => false

def hasStopped (elector : Elector) : Bool := elector.standing == .stopped

def hasStarted (elector : Elector) : Bool := elector.phase != .idle

def stepDown (elector : Elector) (term : Term) (phase : Phase) : Elector :=
  { elector with phase, standing := .follower, endedTerms := term :: elector.endedTerms }

def stop (elector : Elector) : Elector := { elector with phase := .stopped, standing := .stopped }

/-- Follows a signal. A signal that means nothing in the current phase changes nothing. -/
def hear (elector : Elector) (now : Instant) (signal : Signal) : Elector :=
  let move (phase : Phase) : Elector := { elector with phase }
  let wake := now + elector.settings.retry
  match elector.phase, signal with
  | .idle, .started => move .opening
  | .opening, .sessionOpened lease => move (.campaigning lease)
  | .opening, .sessionRefused _ => move (.openPause wake)
  | .opening, .cancelSeen => elector.stop
  | .openPause _, .pauseOver => move .opening
  | .openPause _, .cancelSeen => elector.stop
  | .campaigning lease, .entered => move (.waiting lease)
  | .campaigning lease, .campaignRefused _ => move (.campaignPause lease wake)
  | .campaigning _, .sessionLost => move .opening
  | .campaigning lease, .cancelSeen => move (.closing lease)
  | .waiting lease, .won => move (.elected lease)
  | .waiting lease, .campaignRefused _ => move (.campaignPause lease wake)
  | .waiting _, .sessionLost => move .opening
  | .waiting lease, .cancelSeen => move (.closing lease)
  | .campaignPause lease _, .pauseOver => move (.campaigning lease)
  | .campaignPause lease _, .cancelSeen => move (.closing lease)
  | .elected lease, .seated =>
    { elector with
      phase := .leading lease elector.terms
      standing := .leader elector.terms
      terms := elector.terms + 1 }
  | .leading _ term, .sessionLost => elector.stepDown term .opening
  | .leading lease term, .cancelSeen => elector.stepDown term (.closing lease)
  | .closing _, .sessionClosed _ => elector.stop
  | _, _ => elector

def report (elector : Elector) (signal : Signal) : Option Notice :=
  match elector.phase, signal with
  | .opening, .sessionRefused error => some (.sessionFailed error)
  | .campaigning _, .campaignRefused error => some (.campaignFailed elector.candidate error)
  | .campaigning _, .sessionLost => some (.lostWhileCampaigning elector.candidate)
  | .waiting _, .campaignRefused error => some (.campaignFailed elector.candidate error)
  | .waiting _, .sessionLost => some (.lostWhileCampaigning elector.candidate)
  | .leading _ _, .sessionLost => some (.lostWhileLeading elector.candidate)
  | .closing lease, .sessionClosed (some error) => some (.closeFailed lease error)
  | _, _ => none

def wake? (elector : Elector) : Option Instant :=
  match elector.phase with
  | .openPause wake => some wake
  | .campaignPause _ wake => some wake
  | _ => none

def describe (elector : Elector) : String :=
  "LeaderElector \x7b instance_id: " ++ Text.quoted elector.candidate ++ ", prefix: " ++
    Text.quoted elector.key ++ ", leading: " ++ Text.boolean elector.isLeader ++ " \x7d"

end Elector

end Rota.Election
