import Rota.Calendar.Moment
import Rota.Cron.Pattern

/-!
The search for the next moment that a cron expression matches. It walks the local time upwards
and gives up when it would have to go on from a day in the year 5000 or later.
-/

namespace Rota.Cron

open Calendar

/-- What the walk finds at a moment: a match on the same day, or the moment to go on from. -/
inductive Probe where
  | found (seconds : Int)
  | later (seconds : Int)
deriving DecidableEq, Repr

namespace Pattern

def timeAt (pattern : Pattern) (hour minute : Nat) : Nat :=
  hour * 3600 + minute * 60 + (pattern.seconds.firstFrom 0).getD 0

def probeTime (pattern : Pattern) (midnight : Int) (time : Nat) : Probe :=
  let hour := time / 3600
  let minute := time / 60 % 60
  match pattern.hours.firstFrom hour with
  | none => .later (midnight + 86400)
  | some nextHour =>
    if nextHour != hour then
      .found (midnight + pattern.timeAt nextHour ((pattern.minutes.firstFrom 0).getD 0))
    else match pattern.minutes.firstFrom minute with
      | none => .later (midnight + (hour + 1) * 3600)
      | some nextMinute =>
        if nextMinute != minute then .found (midnight + pattern.timeAt hour nextMinute)
        else match pattern.seconds.firstFrom (time % 60) with
          | none => .later (midnight + hour * 3600 + (minute + 1) * 60)
          | some second => .found (midnight + hour * 3600 + minute * 60 + second)

def probe (pattern : Pattern) (seconds : Int) : Probe :=
  let number := seconds / 86400
  let date := Date.ofDayNumber number
  if !pattern.matchesMonth date.month then
    .later ((number + (daysInMonth date.year date.month - date.day : Nat) + 1) * 86400)
  else if !pattern.matchesDay number date then .later ((number + 1) * 86400)
  else pattern.probeTime (number * 86400) (seconds % 86400).toNat

theorem probeTime_later {pattern : Pattern} {midnight moment : Int} {time : Nat}
    (bound : time < 86400) (passed : pattern.probeTime midnight time = .later moment) :
    midnight + time < moment := by
  simp only [probeTime] at passed
  split at passed
  · simp only [Probe.later.injEq] at passed
    omega
  · split at passed
    · simp at passed
    · split at passed
      · simp only [Probe.later.injEq] at passed
        omega
      · split at passed
        · simp at passed
        · split at passed
          · simp only [Probe.later.injEq] at passed
            omega
          · simp at passed

/-- The walk only goes forward. -/
theorem probe_later {pattern : Pattern} {seconds moment : Int}
    (passed : pattern.probe seconds = .later moment) : seconds < moment := by
  simp only [probe] at passed
  split at passed
  · simp only [Probe.later.injEq] at passed
    omega
  · split at passed
    · simp only [Probe.later.injEq] at passed
      omega
    · have forward := probeTime_later (by omega) passed
      omega

/-- The first second of the year 5000. -/
def horizon : Int := Date.dayNumber { year := 5000, month := 1, day := 1 } * 86400

/-- The first match at or after a moment. -/
def walk (pattern : Pattern) (seconds : Int) : Option Int :=
  match _outcome : pattern.probe seconds with
  | .found moment => some moment
  | .later moment => if seconds < horizon then walk pattern moment else none
termination_by (horizon - seconds).toNat
decreasing_by
  have forward := probe_later _outcome
  omega

/-- A field for the time of day that names no value can never match. -/
def hasTimes (pattern : Pattern) : Bool :=
  !pattern.hours.plain.isEmpty && !pattern.minutes.plain.isEmpty && !pattern.seconds.plain.isEmpty

/-- The first match after a point in time, on a clock at an offset from UTC. -/
def next? (pattern : Pattern) (offset : Offset) (after : Wall) : Option Wall :=
  if pattern.hasTimes then
    (pattern.walk (localSeconds offset after + 1)).map (wallOfLocal offset)
  else none

/-- Up to `count` successive matches after a point in time, and whether that many were found. -/
def upcoming (pattern : Pattern) (offset : Offset) : Nat → Wall → List Wall × Bool
  | 0, _ => ([], true)
  | count + 1, after =>
    match pattern.next? offset after with
    | none => ([], false)
    | some next =>
      let (later, complete) := pattern.upcoming offset count next
      (next :: later, complete)

end Pattern

def searchLimit : String := "CronScheduler time search limit exceeded."

end Rota.Cron
