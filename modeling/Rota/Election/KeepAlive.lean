import Rota.Journal

/-!
Keeping a lease alive: a renewal is asked for after every third of the lifetime, and each grant
moves the deadline. The session ends with the first answer that is no grant, and at the deadline
when no answer has come by then.
-/

namespace Rota.Election

/-- How a service answers one renewal: after a delay, or never, with the seconds granted or a
reason for failure. -/
structure Renewal where
  delay : Option Duration := none
  hangs : Bool := false
  answer : Except String Int

inductive KeepAlivePhase where
  | resting (wake : Instant)
  | renewing (answer : Option (Instant × Except String Int))
  | over
  /-- The deadline was moved beyond what the clock can show, which breaks the loop off. -/
  | brokenOff

structure KeepAlive where
  lease : Lease
  lifetime : Duration
  /-- The last instant that the clock of the loop's host can show. -/
  clockEnd : Instant
  deadline : Instant
  phase : KeepAlivePhase
  done : Bool := false

namespace KeepAlive

/-- A third of the lifetime, to the next whole millisecond. -/
def interval (lifetime : Duration) : Duration := (lifetime + 2) / 3

/-- The end of a clock that counts its seconds in 64 bits with a sign, and has gone for one. -/
def longestClock : Instant := (Decimal.signedLimit - 1) * 1000 - 1

def begin (lease : Lease) (lifetime : Duration) (now : Instant)
    (clockEnd : Instant := longestClock) : KeepAlive :=
  let deadline := now + lifetime
  let phase := if clockEnd < deadline then .brokenOff else .resting (now + interval lifetime)
  { lease, lifetime, clockEnd, deadline, phase }

def hasFinished (loop : KeepAlive) : Bool :=
  match loop.phase with
  | .over => true
  | .brokenOff => true
  | _ => false

def finish (loop : KeepAlive) (now : Instant) (journal : Journal) : KeepAlive × Journal :=
  ({ loop with phase := .over, done := true },
    if loop.done then journal else journal.record now .leaseEnded)

/-- Moves the deadline, and rests until the next renewal. A deadline that the clock cannot show
breaks the loop off. -/
def prolong (loop : KeepAlive) (now : Instant) (seconds : Nat) : KeepAlive :=
  let deadline := now + seconds * 1000
  if loop.clockEnd < deadline then { loop with phase := .brokenOff }
  else { loop with deadline, phase := .resting (now + interval loop.lifetime) }

def takeAnswer (loop : KeepAlive) (now : Instant) (answer : Except String Int)
    (journal : Journal) : KeepAlive × Journal :=
  match answer with
  | .ok granted =>
    if granted ≤ 0 then loop.finish now (journal.note now (.leaseExpired loop.lease))
    else (loop.prolong now granted.toNat, journal)
  | .error reason => loop.finish now (journal.note now (.renewalFailed loop.lease reason))

/-- Asks for a renewal. An answer that takes no time counts whenever it is asked for. -/
def renew (loop : KeepAlive) (now : Instant) (renewal : Renewal) (journal : Journal) :
    KeepAlive × Journal :=
  let journal := journal.record now .renewed
  if renewal.hangs then ({ loop with phase := .renewing none }, journal)
  else match renewal.delay.getD 0 with
    | 0 => loop.takeAnswer now renewal.answer journal
    | delay => ({ loop with phase := .renewing (some (now + delay, renewal.answer)) }, journal)

def expire (loop : KeepAlive) (now : Instant) (journal : Journal) : KeepAlive × Journal :=
  loop.finish now (journal.note now (.deadlinePassed loop.lease))

def nextWake (loop : KeepAlive) : Option Instant :=
  match loop.phase with
  | .resting wake => some wake
  | .renewing none => some loop.deadline
  | .renewing (some (instant, _)) => some (min instant loop.deadline)
  | .over => none
  | .brokenOff => none

/-- What happens at that instant; an answer at the deadline itself still counts. The renewals
are the answers still to come, and `regular` the one given when they are used up. -/
def advance (loop : KeepAlive) (now : Instant) (renewals : List Renewal) (regular : Renewal)
    (journal : Journal) : KeepAlive × List Renewal × Journal :=
  match loop.phase with
  | .resting _ =>
    let (loop, journal) := loop.renew now (renewals.headD regular) journal
    (loop, renewals.tail, journal)
  | .renewing (some (instant, answer)) =>
    let (loop, journal) :=
      if instant ≤ loop.deadline then loop.takeAnswer now answer journal
      else loop.expire now journal
    (loop, renewals, journal)
  | .renewing none =>
    let (loop, journal) := loop.expire now journal
    (loop, renewals, journal)
  | _ => (loop, renewals, journal)

/-- Goes on until an instant, with at most `fuel` happenings. -/
def runFor (target : Instant) (regular : Renewal) :
    Nat → Instant → KeepAlive × List Renewal × Journal → KeepAlive × List Renewal × Journal
  | 0, _, current => current
  | fuel + 1, now, (loop, renewals, journal) =>
    match loop.nextWake with
    | none => (loop, renewals, journal)
    | some wake =>
      if wake ≤ target then
        let instant := max now wake
        runFor target regular fuel instant (loop.advance instant renewals regular journal)
      else (loop, renewals, journal)

/-- Goes on until an instant. A renewal is asked for at most once a millisecond and brings at
most one other happening with it. -/
def runUntil (now target : Instant) (regular : Renewal) (loop : KeepAlive)
    (renewals : List Renewal) (journal : Journal) : KeepAlive × List Renewal × Journal :=
  runFor target regular (2 * (target - now) + 2) now (loop, renewals, journal)

def cancel (loop : KeepAlive) (now : Instant) (journal : Journal) : KeepAlive × Journal :=
  let (finished, journal) := loop.finish now journal
  ({ finished with phase := if loop.hasFinished then loop.phase else .over }, journal)

end KeepAlive

end Rota.Election
