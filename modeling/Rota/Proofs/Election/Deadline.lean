import Rota.Election.KeepAlive

/-!
How long a session outlives its lease. The loop that keeps a lease alive rests for a third of
the lifetime whatever was granted, so it ends the session by the deadline exactly when no grant
runs out while it rests.
-/

namespace Rota.Election

/-- A loop at an instant of its run, with the answers still to come. -/
structure Upkeep where
  start : Instant
  now : Instant
  loop : KeepAlive
  renewals : List Renewal
  journal : Journal := {}
  /-- When a renewal was last confirmed, and the seconds that it granted. -/
  confirmed : Option (Instant × Nat) := none

def grant? : Except String Int → Option Nat
  | .ok granted => if granted ≤ 0 then none else some granted.toNat
  | .error _ => none

namespace KeepAlive

/-- The answer that the loop takes at its next happening, if it takes one. -/
def taken? (loop : KeepAlive) (renewal : Renewal) : Option (Except String Int) :=
  match loop.phase with
  | .resting _ =>
    if renewal.hangs || renewal.delay.getD 0 != 0 then none else some renewal.answer
  | .renewing (some (instant, answer)) => if instant ≤ loop.deadline then some answer else none
  | _ => none

def ended (loop : KeepAlive) : KeepAlive := { loop with phase := .over, done := true }

/-- All that can come of a happening: a renewal is confirmed, or the session ends, or a renewal
is asked for and the answer is awaited. -/
inductive Outcome (loop : KeepAlive) (now : Instant) : Option Nat → KeepAlive → Prop
  | prolonged {seconds} : Outcome loop now (some seconds) (loop.prolong now seconds)
  | ended : Outcome loop now none loop.ended
  | asked {wake answer} : loop.phase = .resting wake →
      Outcome loop now none { loop with phase := .renewing answer }

variable (loop : KeepAlive) (now : Instant) (journal : Journal)

theorem takeAnswer_outcome (answer : Except String Int) :
    Outcome loop now (grant? answer) (loop.takeAnswer now answer journal).1 := by
  cases answer with
  | error reason => exact .ended
  | ok granted =>
      by_cases refused : granted ≤ 0
      · simp only [takeAnswer, grant?, refused, if_true]
        exact .ended
      · simp only [takeAnswer, grant?, refused, if_false]
        exact .prolonged

theorem renew_outcome {wake : Instant} (renewal : Renewal) (resting : loop.phase = .resting wake) :
    Outcome loop now ((loop.taken? renewal).bind grant?) (loop.renew now renewal journal).1 := by
  simp only [renew, taken?, resting]
  cases hangs : renewal.hangs with
  | true => exact .asked resting
  | false =>
      cases delayed : renewal.delay.getD 0 with
      | zero => exact takeAnswer_outcome loop now _ renewal.answer
      | succ delay => exact .asked resting

theorem advance_outcome (renewals : List Renewal) (regular : Renewal)
    (going : loop.hasFinished = false) :
    Outcome loop now ((loop.taken? (renewals.headD regular)).bind grant?)
      (loop.advance now renewals regular journal).1 := by
  simp only [advance]
  cases phase : loop.phase with
  | resting wake => exact renew_outcome loop now journal _ phase
  | renewing awaited =>
      cases awaited with
      | none =>
          simp only [taken?, phase]
          exact .ended
      | some pending =>
          simp only [taken?, phase]
          split
          · exact takeAnswer_outcome loop now journal pending.2
          · exact .ended
  | _ => simp [hasFinished, phase] at going

end KeepAlive

namespace Upkeep

open KeepAlive

def begin (lease : Lease) (lifetime : Duration) (start clockEnd : Instant)
    (renewals : List Renewal) : Upkeep :=
  { start, now := start, loop := KeepAlive.begin lease lifetime start clockEnd, renewals }

def happen (regular : Renewal) (upkeep : Upkeep) : Upkeep :=
  let (loop, renewals, journal) :=
    upkeep.loop.advance upkeep.now upkeep.renewals regular upkeep.journal
  let granted := (upkeep.loop.taken? (upkeep.renewals.headD regular)).bind grant?
  { upkeep with
    loop, renewals, journal
    confirmed := (granted.map fun seconds => (upkeep.now, seconds)).or upkeep.confirmed }

def cancel (upkeep : Upkeep) : Upkeep :=
  let (loop, journal) := upkeep.loop.cancel upkeep.now upkeep.journal
  { upkeep with loop, journal }

/-- The moments of a run: time goes on until something is due, as far as the clock shows it, or
what is due happens, or the session is ended from outside. -/
inductive Reaches (regular : Renewal) (first : Upkeep) : Upkeep → Prop
  | refl : Reaches regular first first
  | wait {upkeep later} : Reaches regular first upkeep → upkeep.now ≤ later →
      later ≤ upkeep.loop.clockEnd → (∀ wake, upkeep.loop.nextWake = some wake → later ≤ wake) →
        Reaches regular first { upkeep with now := later }
  | happen {upkeep wake} : Reaches regular first upkeep → upkeep.loop.nextWake = some wake →
      wake ≤ upkeep.now → Reaches regular first (upkeep.happen regular)
  | cancel {upkeep} : Reaches regular first upkeep → Reaches regular first upkeep.cancel

def since (upkeep : Upkeep) : Instant := (upkeep.confirmed.map Prod.fst).getD upkeep.start

def leaseDeadline (upkeep : Upkeep) : Instant :=
  match upkeep.confirmed with
  | none => upkeep.start + upkeep.loop.lifetime
  | some (instant, seconds) => instant + seconds * 1000

structure Going (upkeep : Upkeep) : Prop where
  unfinished : upkeep.loop.hasFinished = false
  deadline : upkeep.loop.deadline = upkeep.leaseDeadline
  bound : upkeep.now ≤ max upkeep.leaseDeadline (upkeep.since + interval upkeep.loop.lifetime)
  shown : upkeep.now ≤ max upkeep.since upkeep.loop.clockEnd
  wake : ∀ wake, upkeep.loop.phase = .resting wake →
    wake = upkeep.since + interval upkeep.loop.lifetime

/-- A session whose loop was broken off by a deadline that the clock cannot show. -/
structure Broken (upkeep : Upkeep) : Prop where
  phase : upkeep.loop.phase = .brokenOff
  beyond : upkeep.loop.clockEnd < upkeep.leaseDeadline
  bound : upkeep.now ≤ upkeep.leaseDeadline

theorem hasFinished_of_nextWake {loop : KeepAlive} {wake : Instant}
    (due : loop.nextWake = some wake) : loop.hasFinished = false := by
  cases phase : loop.phase <;> simp_all [nextWake, hasFinished]

/-- A loop goes on from its beginning, unless the clock cannot show its first deadline. -/
theorem begin_kept (lease : Lease) (lifetime : Duration) (start clockEnd : Instant)
    (renewals : List Renewal) :
    Broken (begin lease lifetime start clockEnd renewals) ∨
      Going (begin lease lifetime start clockEnd renewals) := by
  by_cases beyond : clockEnd < start + lifetime
  · left
    refine ⟨?_, beyond, Nat.le_add_right _ _⟩
    simp [begin, KeepAlive.begin, beyond]
  · right
    refine ⟨?_, rfl, ?_, Nat.le_max_left _ _, ?_⟩
    · simp [begin, KeepAlive.begin, beyond, hasFinished]
    · exact Nat.le_trans (Nat.le_add_right _ _) (Nat.le_max_left _ _)
    · intro wake resting
      simpa [begin, KeepAlive.begin, beyond, since] using resting.symm

variable {regular : Renewal} {first upkeep : Upkeep}

theorem happen_outcome (regular : Renewal) (unfinished : upkeep.loop.hasFinished = false) :
    ∃ granted loop, Outcome upkeep.loop upkeep.now granted loop ∧
      (upkeep.happen regular).loop = loop ∧ (upkeep.happen regular).now = upkeep.now ∧
      (upkeep.happen regular).start = upkeep.start ∧
      (upkeep.happen regular).confirmed =
        (granted.map fun seconds => (upkeep.now, seconds)).or upkeep.confirmed :=
  ⟨_, _, advance_outcome _ _ _ _ _ unfinished, rfl, rfl, rfl, rfl⟩

theorem prolong_lifetime (loop : KeepAlive) (now : Instant) (seconds : Nat) :
    (loop.prolong now seconds).lifetime = loop.lifetime := by
  simp only [prolong]
  split <;> rfl

theorem prolong_clockEnd (loop : KeepAlive) (now : Instant) (seconds : Nat) :
    (loop.prolong now seconds).clockEnd = loop.clockEnd := by
  simp only [prolong]
  split <;> rfl

theorem prolong_done (loop : KeepAlive) (now : Instant) (seconds : Nat) :
    (loop.prolong now seconds).done = loop.done := by
  simp only [prolong]
  split <;> rfl

theorem Going.happen (going : Going upkeep) :
    (upkeep.happen regular).loop.done = true ∨ Broken (upkeep.happen regular) ∨
      Going (upkeep.happen regular) := by
  obtain ⟨granted, loop, outcome, same, now, start, confirmed⟩ :=
    happen_outcome regular going.unfinished
  cases outcome with
  | @prolonged seconds =>
      have renewed : (upkeep.happen regular).confirmed = some (upkeep.now, seconds) := by
        simpa using confirmed
      have deadline : (upkeep.happen regular).leaseDeadline = upkeep.now + seconds * 1000 := by
        simp [leaseDeadline, renewed]
      by_cases broken : upkeep.loop.clockEnd < upkeep.now + seconds * 1000
      · refine .inr (.inl ⟨?_, ?_, ?_⟩)
        · simp [same, prolong, broken]
        · rwa [deadline, same, prolong_clockEnd]
        · rw [deadline, now]
          exact Nat.le_add_right _ _
      · have since : (upkeep.happen regular).since = upkeep.now := by
          simp [Upkeep.since, renewed]
        refine .inr (.inr ⟨?_, ?_, ?_, ?_, ?_⟩)
        · simp [same, prolong, broken, hasFinished]
        · simp [same, prolong, broken, deadline]
        · rw [deadline, now]
          exact Nat.le_trans (Nat.le_add_right _ _) (Nat.le_max_left _ _)
        · rw [since, now]
          exact Nat.le_max_left _ _
        · intro wake resting
          simp only [same, prolong, broken, if_false] at resting ⊢
          simpa [since] using resting.symm
  | ended =>
      left
      rw [same]
      rfl
  | @asked wake answer resting =>
      have unrenewed : (upkeep.happen regular).confirmed = upkeep.confirmed := by
        simpa using confirmed
      have deadline : (upkeep.happen regular).leaseDeadline = upkeep.leaseDeadline := by
        simp [leaseDeadline, unrenewed, start, same]
      have since : (upkeep.happen regular).since = upkeep.since := by
        simp [Upkeep.since, unrenewed, start]
      refine .inr (.inr ⟨?_, ?_, ?_, ?_, ?_⟩)
      · simp [same, hasFinished]
      · rw [deadline, same]
        exact going.deadline
      · rw [deadline, since, now, same]
        exact going.bound
      · rw [since, now, same]
        exact going.shown
      · simp [same]

theorem Going.wait {later : Instant} (going : Going upkeep)
    (shown : later ≤ upkeep.loop.clockEnd)
    (undue : ∀ wake, upkeep.loop.nextWake = some wake → later ≤ wake) :
    Going { upkeep with now := later } := by
  refine ⟨going.unfinished, going.deadline, ?_, Nat.le_trans shown (Nat.le_max_right _ _),
    going.wake⟩
  change later ≤ max upkeep.leaseDeadline (upkeep.since + interval upkeep.loop.lifetime)
  have unfinished := going.unfinished
  have deadline := going.deadline
  cases phase : upkeep.loop.phase with
  | resting wake =>
      have early := undue wake (by simp [nextWake, phase])
      rw [going.wake wake phase] at early
      exact Nat.le_trans early (Nat.le_max_right _ _)
  | renewing awaited =>
      have early : later ≤ upkeep.loop.deadline := by
        cases awaited with
        | none => exact undue _ (by simp [nextWake, phase])
        | some pending =>
            exact Nat.le_trans (undue _ (by simp [nextWake, phase]; rfl)) (Nat.min_le_right _ _)
      rw [deadline] at early
      exact Nat.le_trans early (Nat.le_max_left _ _)
  | _ => simp [hasFinished, phase] at unfinished

theorem happen_done (unfinished : upkeep.loop.hasFinished = false)
    (done : upkeep.loop.done = true) : (upkeep.happen regular).loop.done = true := by
  obtain ⟨granted, loop, outcome, same, _⟩ := happen_outcome regular unfinished
  rw [same]
  cases outcome with
  | prolonged => rw [prolong_done, done]
  | ended => rfl
  | asked => exact done

theorem Reaches.kept (reached : Reaches regular first upkeep) (kept : Broken first ∨ Going first) :
    upkeep.loop.done = true ∨ Broken upkeep ∨ Going upkeep := by
  induction reached with
  | refl => exact .inr kept
  | @wait upkeep later _ _ shown undue ih =>
      rcases ih with done | broken | going
      · exact .inl done
      · exact .inr (.inl ⟨broken.phase, broken.beyond, Nat.le_of_lt
          (Nat.lt_of_le_of_lt shown broken.beyond)⟩)
      · exact .inr (.inr (going.wait shown undue))
  | happen _ due _ ih =>
      have unfinished := hasFinished_of_nextWake due
      rcases ih with done | broken | going
      · exact .inl (happen_done unfinished done)
      · simp [hasFinished, broken.phase] at unfinished
      · exact going.happen
  | cancel => exact .inl rfl

theorem Reaches.given (reached : Reaches regular first upkeep) :
    upkeep.loop.lifetime = first.loop.lifetime ∧ upkeep.loop.clockEnd = first.loop.clockEnd := by
  induction reached with
  | refl => exact ⟨rfl, rfl⟩
  | wait _ _ _ _ ih => exact ih
  | happen _ due _ ih =>
      obtain ⟨granted, loop, outcome, same, _⟩ :=
        happen_outcome regular (hasFinished_of_nextWake due)
      rw [same, ← ih.1, ← ih.2]
      cases outcome with
      | prolonged => exact ⟨prolong_lifetime _ _ _, prolong_clockEnd _ _ _⟩
      | ended => exact ⟨rfl, rfl⟩
      | asked => exact ⟨rfl, rfl⟩
  | cancel _ ih => exact ih

theorem happen_advance (upkeep : Upkeep) :
    ((upkeep.happen regular).loop, (upkeep.happen regular).renewals,
      (upkeep.happen regular).journal) =
        upkeep.loop.advance upkeep.now upkeep.renewals regular upkeep.journal := rfl

/-- The loop comes to no state of its own running that is not one of these moments. -/
theorem Reaches.runFor (reached : Reaches regular first upkeep) {target : Instant}
    (shown : target ≤ first.loop.clockEnd) (fuel : Nat) :
    ∃ later, Reaches regular first later ∧
      (later.loop, later.renewals, later.journal) =
        KeepAlive.runFor target regular fuel upkeep.now
          (upkeep.loop, upkeep.renewals, upkeep.journal) := by
  induction fuel generalizing upkeep with
  | zero => exact ⟨upkeep, reached, rfl⟩
  | succ fuel ih =>
      cases due : upkeep.loop.nextWake with
      | none => exact ⟨upkeep, reached, by simp [KeepAlive.runFor, due]⟩
      | some wake =>
          by_cases early : wake ≤ target
          · have woken : Reaches regular first { upkeep with now := max upkeep.now wake } := by
              by_cases late : wake ≤ upkeep.now
              · rwa [Nat.max_eq_left late]
              · have ahead := Nat.le_of_lt (Nat.lt_of_not_le late)
                rw [Nat.max_eq_right ahead]
                apply reached.wait ahead (reached.given.2 ▸ Nat.le_trans early shown)
                intro other same
                exact Nat.le_of_eq (Option.some.inj (due.symm.trans same))
            obtain ⟨later, laterReached, same⟩ := ih (woken.happen due (Nat.le_max_right _ _))
            refine ⟨later, laterReached, ?_⟩
            rw [same, happen_advance]
            simp only [KeepAlive.runFor, due, early, if_true]
            rfl
          · exact ⟨upkeep, reached, by simp [KeepAlive.runFor, due, early]⟩

/-- A session that has not ended outlives its lease by less than a third of its lifetime. -/
theorem Reaches.overrun (reached : Reaches regular first upkeep)
    (kept : Broken first ∨ Going first) (undone : upkeep.loop.done = false) :
    upkeep.now ≤ max upkeep.leaseDeadline (upkeep.since + interval upkeep.loop.lifetime) := by
  rcases reached.kept kept with done | broken | going
  · simp [undone] at done
  · exact Nat.le_trans broken.bound (Nat.le_max_left _ _)
  · exact going.bound

theorem cancel_hasFinished (loop : KeepAlive) (now : Instant) (journal : Journal) :
    (loop.cancel now journal).1.hasFinished = true := by
  cases phase : loop.phase <;> simp [KeepAlive.cancel, hasFinished, phase]

theorem Reaches.undone (reached : Reaches regular first upkeep) (unended : first.loop.done = false)
    (unfinished : upkeep.loop.hasFinished = false) : upkeep.loop.done = false := by
  induction reached with
  | refl => exact unended
  | wait _ _ _ _ ih => exact ih unfinished
  | happen _ due _ ih =>
      have before := hasFinished_of_nextWake due
      obtain ⟨granted, loop, outcome, same, _⟩ := happen_outcome regular before
      rw [same] at unfinished ⊢
      cases outcome with
      | prolonged => rw [prolong_done, ih before]
      | ended => simp [ended, hasFinished] at unfinished
      | asked => exact ih before
  | @cancel upkeep =>
      have finished := cancel_hasFinished upkeep.loop upkeep.now upkeep.journal
      exact absurd (finished.symm.trans unfinished) (by simp)

theorem Reaches.confirmed_origin (reached : Reaches regular first upkeep)
    (unended : first.loop.done = false) (unconfirmed : first.confirmed = none) {instant : Instant}
    {seconds : Nat} (confirmed : upkeep.confirmed = some (instant, seconds)) :
    ∃ (origin : Upkeep) (loop : KeepAlive), Reaches regular first origin ∧
      origin.now = instant ∧ origin.confirmed = some (instant, seconds) ∧
      origin.loop.done = false ∧ origin.loop = loop.prolong instant seconds ∧
      loop.lifetime = first.loop.lifetime := by
  induction reached with
  | refl => simp [unconfirmed] at confirmed
  | wait _ _ _ _ ih => exact ih confirmed
  | @happen upkeep wake reached due early ih =>
      have unfinished := hasFinished_of_nextWake due
      obtain ⟨granted, loop, outcome, same, now, _, renewed⟩ :=
        happen_outcome regular unfinished
      cases outcome with
      | @prolonged granted =>
          have inForce : (upkeep.now, granted) = (instant, seconds) := by
            simpa [renewed] using confirmed
          obtain ⟨rfl, rfl⟩ := Prod.mk.inj inForce
          refine ⟨_, upkeep.loop, .happen reached due early, now, confirmed, ?_, same,
            reached.given.1⟩
          rw [same, prolong_done, reached.undone unended unfinished]
      | ended =>
          apply ih
          simpa [renewed] using confirmed
      | asked =>
          apply ih
          simpa [renewed] using confirmed
  | cancel _ ih => exact ih confirmed

theorem Going.punctual (going : Going upkeep)
    (lasting : ∀ instant seconds, upkeep.confirmed = some (instant, seconds) →
      min (instant + interval upkeep.loop.lifetime) upkeep.loop.clockEnd ≤
        instant + seconds * 1000) : upkeep.now ≤ upkeep.leaseDeadline := by
  have bound := going.bound
  have shown := going.shown
  cases confirmed : upkeep.confirmed with
  | none =>
      simp only [leaseDeadline, since, confirmed, Option.map_none, Option.getD_none,
        interval] at bound ⊢
      lia
  | some renewal =>
      have lasts := lasting renewal.1 renewal.2 confirmed
      simp only [leaseDeadline, since, confirmed, Option.map_some, Option.getD_some]
        at bound shown ⊢
      lia

/-- A grant that does not last until the next renewal leaves a moment after its deadline, before
which nothing happens. -/
theorem Reaches.outlives (reached : Reaches regular first upkeep) {loop : KeepAlive}
    {seconds : Nat}
    (prolonged : upkeep.loop = loop.prolong upkeep.now seconds)
    (short : upkeep.now + seconds * 1000 <
      min (upkeep.now + interval loop.lifetime) upkeep.loop.clockEnd) :
    ∃ later, Reaches regular first { upkeep with now := later } ∧
      upkeep.now + seconds * 1000 < later := by
  refine ⟨min (upkeep.now + interval loop.lifetime) upkeep.loop.clockEnd, ?_, short⟩
  apply reached.wait
  · exact Nat.le_trans (Nat.le_add_right _ _) (Nat.le_of_lt short)
  · exact Nat.min_le_right _ _
  · intro wake due
    rw [prolonged, prolong] at due
    split at due
    · simp [nextWake] at due
    · simp only [nextWake, Option.some.injEq] at due
      exact due ▸ Nat.min_le_left _ _

end Upkeep

open Upkeep KeepAlive

/-- Whatever the clock of the host can show, a session ends by the deadline of its lease, whenever
that may come to lie, exactly when every grant lasts until the loop asks for the next one, or for as
long as the clock goes. -/
theorem session_ends_by_deadline_iff (lease : Lease) (lifetime : Duration)
    (start clockEnd : Instant) (renewals : List Renewal) (regular : Renewal) :
    (∀ upkeep, Reaches regular (begin lease lifetime start clockEnd renewals) upkeep →
      upkeep.loop.done = false → upkeep.now ≤ upkeep.leaseDeadline) ↔
    ∀ upkeep, Reaches regular (begin lease lifetime start clockEnd renewals) upkeep →
      ∀ instant seconds, upkeep.confirmed = some (instant, seconds) →
        min (instant + interval lifetime) clockEnd ≤ instant + seconds * 1000 := by
  have kept := begin_kept lease lifetime start clockEnd renewals
  constructor
  · intro punctual upkeep reached instant seconds confirmed
    obtain ⟨origin, loop, originReached, rfl, renewed, undone, prolonged, sameLifetime⟩ :=
      reached.confirmed_origin rfl rfl confirmed
    have deadline (later : Instant) :
        { origin with now := later }.leaseDeadline = origin.now + seconds * 1000 := by
      simp [leaseDeadline, renewed]
    apply Nat.le_of_not_lt
    intro short
    -- The loop rests from the confirmation on, past the deadline that came with it.
    rw [← show loop.lifetime = lifetime from sameLifetime,
      ← show origin.loop.clockEnd = clockEnd from originReached.given.2] at short
    obtain ⟨later, laterReached, late⟩ := originReached.outlives prolonged short
    have early := punctual _ laterReached undone
    rw [deadline] at early
    exact absurd early (Nat.not_le_of_lt late)
  · intro lasting upkeep reached undone
    rcases reached.kept kept with done | broken | going
    · simp [undone] at done
    · exact broken.bound
    · apply going.punctual
      rw [show upkeep.loop.lifetime = lifetime from reached.given.1,
        show upkeep.loop.clockEnd = clockEnd from reached.given.2]
      exact lasting upkeep reached

def scarce : Upkeep := begin 1 9000 0 longestClock [{ answer := .ok 1 }]

def generous : Renewal := { answer := .ok 9 }

/-- A grant of one second ends at four seconds. The loop rests until six, with the session
alive, and has the lease renewed then. -/
theorem scarce_outlives_lease :
    ∃ upkeep, Reaches generous scarce upkeep ∧ upkeep.loop.done = false ∧
      upkeep.leaseDeadline = 4000 ∧ upkeep.now = 6000 ∧
      (upkeep.happen generous).confirmed = some (6000, 9) ∧
      (upkeep.happen generous).loop.done = false := by
  have first : Reaches generous scarce { scarce with now := 3000 } := by
    refine .wait .refl (by decide) (by decide) ?_
    intro wake due
    cases due
    decide
  have granted : Reaches generous scarce ({ scarce with now := 3000 }.happen generous) :=
    first.happen rfl (by decide)
  have rested : Reaches generous scarce
      { { scarce with now := 3000 }.happen generous with now := 6000 } := by
    refine granted.wait (by decide) (by decide) ?_
    intro wake due
    cases due
    decide
  exact ⟨_, rested, rfl, rfl, rfl, rfl, rfl⟩

end Rota.Election
