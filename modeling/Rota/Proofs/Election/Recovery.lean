import Rota.Proofs.Election.Resignation
import Rota.Proofs.Election.Settling

/-!
How a sole elector recovers, move by move. It loses its session, fails to open another one for a
while, pausing after each attempt, and then leads a new term with the session that it gets. Main
statements: what a recovery has come to at any time, and that nothing more is attempted once the
elector is told to stop.
-/

namespace Rota.Election

/-- The start of an elector or the end of its session, at a moment from which on so many sessions
cannot be created. -/
structure Outage where
  moment : Instant
  failures : Nat

/-- The moment and one pause for each failure. -/
def Outage.recovery (outage : Outage) (retry : Duration) : Instant :=
  outage.moment + outage.failures * retry

/-- An outage after so many terms. -/
structure Setback extends Outage where
  terms : Nat

/-- The leases of the first so many sessions, the last one first. -/
def leasesBefore (terms : Nat) : List Lease :=
  (List.range terms).reverse.map fun (term : Nat) => (term : Lease) + 1

def termsBefore (terms : Nat) : List Term := (List.range terms).reverse

theorem leasesBefore_succ (terms : Nat) :
    leasesBefore (terms + 1) = (terms + 1 : Lease) :: leasesBefore terms := by
  simp [leasesBefore, List.range_succ]

theorem termsBefore_succ (terms : Nat) : termsBefore (terms + 1) = terms :: termsBefore terms := by
  simp [termsBefore, List.range_succ]

theorem mem_leasesBefore {terms : Nat} {lease : Lease} :
    lease ∈ leasesBefore terms ↔ 0 < lease ∧ lease ≤ terms := by
  simp only [leasesBefore, List.mem_map, List.mem_reverse, List.mem_range]
  constructor
  · rintro ⟨term, bound, rfl⟩
    lia
  · rintro ⟨positive, bound⟩
    exact ⟨(lease - 1).toNat, by lia, by lia⟩

namespace Setback

def lease (setback : Setback) : Lease := setback.terms + 1

/-- The service while the elector has no session. -/
def between (setback : Setback) (failing version : Nat) : Coordinator :=
  { nextLease := setback.lease, ended := leasesBefore setback.terms, failing, version }

/-- The service while the elector has its new session. -/
def within (setback : Setback) (candidates : List Candidate) (version : Nat) : Coordinator :=
  { nextLease := setback.lease + 1, live := [setback.lease]
    ended := leasesBefore setback.terms, candidates, version }

def candidate (setback : Setback) (elector : Elector) : Candidate :=
  { key := elector.key, lease := setback.lease, value := elector.candidate }

/-- All terms that the elector had are over. -/
structure Over (setback : Setback) (elector : Elector) : Prop where
  terms : elector.terms = setback.terms
  ended : elector.endedTerms = termsBefore setback.terms

/-- How far an elector has come. -/
inductive Stage (setback : Setback) (now : Instant) : Elector → Coordinator → Prop
  | losing {elector : Elector} {lease : Lease} {term : Term} {version : Nat} :
      elector.phase = .leading lease term → lease ∈ leasesBefore setback.terms →
      elector.terms = setback.terms → term :: elector.endedTerms = termsBefore setback.terms →
      now = setback.moment →
      Stage setback now elector (setback.between setback.failures version)
  | opening {elector : Elector} {spent failing version : Nat} :
      elector.phase = .opening → setback.Over elector → failing + spent = setback.failures →
      now = setback.moment + spent * elector.settings.retry →
      Stage setback now elector (setback.between failing version)
  | pausing {elector : Elector} {spent failing version : Nat} :
      elector.phase = .openPause (setback.moment + (spent + 1) * elector.settings.retry) →
      setback.Over elector → failing + (spent + 1) = setback.failures →
      now ≤ setback.moment + (spent + 1) * elector.settings.retry →
      Stage setback now elector (setback.between failing version)
  | campaigning {elector : Elector} {version : Nat} :
      elector.phase = .campaigning setback.lease → setback.Over elector →
      setback.recovery elector.settings.retry = now →
      Stage setback now elector (setback.within [] version)
  | waiting {elector : Elector} {version : Nat} :
      elector.phase = .waiting setback.lease → setback.Over elector →
      setback.recovery elector.settings.retry = now →
      Stage setback now elector (setback.within [setback.candidate elector] version)
  | elected {elector : Elector} {version : Nat} :
      elector.phase = .elected setback.lease → setback.Over elector →
      setback.recovery elector.settings.retry = now →
      Stage setback now elector (setback.within [setback.candidate elector] version)
  | leading {elector : Elector} {version : Nat} :
      elector.phase = .leading setback.lease setback.terms →
      elector.terms = setback.terms + 1 → elector.endedTerms = termsBefore setback.terms →
      setback.recovery elector.settings.retry ≤ now →
      Stage setback now elector (setback.within [setback.candidate elector] version)

/-- What an elector can be at that has nothing to do at an instant. -/
inductive Rest (setback : Setback) (now : Instant) (elector : Elector) : Coordinator → Prop
  | pausing {spent failing version : Nat} :
      elector.phase = .openPause (setback.moment + (spent + 1) * elector.settings.retry) →
      setback.Over elector → failing + (spent + 1) = setback.failures →
      now < setback.moment + (spent + 1) * elector.settings.retry →
      Rest setback now elector (setback.between failing version)
  | leading {version : Nat} :
      elector.phase = .leading setback.lease setback.terms →
      elector.terms = setback.terms + 1 → elector.endedTerms = termsBefore setback.terms →
      setback.recovery elector.settings.retry ≤ now →
      Rest setback now elector (setback.within [setback.candidate elector] version)

variable {setback : Setback} {now : Instant} {cluster acted : Cluster} {elector : Elector}
  {move : Move} {signal : Signal} {events : List Event}

theorem hasEnded_between {failing version : Nat} {lease : Lease}
    (earlier : lease ∈ leasesBefore setback.terms) :
    (setback.between failing version).hasEnded lease = true := by
  simpa [between, Coordinator.hasEnded] using earlier

theorem hasEnded_within {candidates : List Candidate} {version : Nat} :
    (setback.within candidates version).hasEnded setback.lease = false := by
  have fresh : setback.lease ∉ leasesBefore setback.terms := by
    rw [mem_leasesBefore, lease]
    lia
  simpa [within, Coordinator.hasEnded] using fresh

theorem isFront_within (setback : Setback) (elector : Elector) (version : Nat) :
    (setback.within [setback.candidate elector] version).isFront elector.key setback.lease =
      true := by
  simp [within, candidate, Coordinator.isFront, Coordinator.leaderLease?, Coordinator.front?,
    Coordinator.queue]

theorem createSession_between (setback : Setback) (version : Nat) :
    (setback.between 0 version).createSession = (.ok setback.lease, setback.within [] version) :=
  rfl

theorem createSession_failing (setback : Setback) (failing version : Nat) :
    (setback.between (failing + 1) version).createSession =
      (.error Coordinator.injectedFailure, setback.between failing version) :=
  rfl

/-- The move that an elector chooses leads to the next stage at the same instant. -/
theorem Stage.act (stage : setback.Stage now elector cluster.coordinator)
    (going : elector.cancelled = false) (flawless : cluster.faults = {})
    (chosen : cluster.choice now elector = some move)
    (acting : cluster.act now elector move = some (acted, signal, events)) :
    setback.Stage now (elector.hear now signal) acted.coordinator ∧ acted.faults = {} := by
  generalize same : cluster.coordinator = coordinator at stage
  cases stage with
  | @losing lease term version phase earlier terms ended current =>
      have lost : cluster.coordinator.hasEnded lease = true := same ▸ hasEnded_between earlier
      simp only [Cluster.choice, phase, going, Bool.false_eq_true, lost, if_true, if_false,
        Option.some.injEq] at chosen
      subst chosen
      simp only [Cluster.act, phase, lost, if_true, Option.some.injEq, Prod.mk.injEq] at acting
      obtain ⟨rfl, rfl, rfl⟩ := acting
      refine ⟨?_, flawless⟩
      rw [same]
      have heard : elector.hear now .sessionLost = elector.stepDown term .opening := by
        simp [Elector.hear, phase]
      rw [heard]
      exact .opening rfl ⟨terms, ended⟩ (Nat.add_zero setback.failures) (by simpa using current)
  | @opening spent failing version phase past left current =>
      simp only [Cluster.choice, phase, going, Bool.false_eq_true, if_false, Option.some.injEq]
        at chosen
      subst chosen
      cases failing with
      | zero =>
          simp only [Cluster.act, phase, Cluster.openSession, same, createSession_between,
            Option.some.injEq, Prod.mk.injEq] at acting
          obtain ⟨rfl, rfl, rfl⟩ := acting
          have heard : elector.hear now (.sessionOpened setback.lease) =
              { elector with phase := .campaigning setback.lease } := by
            simp [Elector.hear, phase]
          refine ⟨?_, flawless⟩
          rw [heard]
          refine .campaigning rfl ⟨past.terms, past.ended⟩ ?_
          rw [Outage.recovery, current, ← left, Nat.zero_add]
      | succ failing =>
          simp only [Cluster.act, phase, Cluster.openSession, same, createSession_failing,
            Option.some.injEq, Prod.mk.injEq] at acting
          obtain ⟨rfl, rfl, rfl⟩ := acting
          have heard : elector.hear now (.sessionRefused Coordinator.injectedFailure) =
              { elector with phase := .openPause (now + elector.settings.retry) } := by
            simp [Elector.hear, phase]
          have wake : now + elector.settings.retry =
              setback.moment + (spent + 1) * elector.settings.retry := by
            rw [current, Nat.add_one_mul, Nat.add_assoc]
          refine ⟨?_, flawless⟩
          rw [heard, wake]
          refine .pausing rfl ⟨past.terms, past.ended⟩ (by omega) ?_
          exact wake ▸ Nat.le_add_right _ _
  | pausing phase past left early =>
      simp only [Cluster.choice, phase, going, Bool.false_eq_true, if_false,
        Option.ite_none_right_eq_some, Option.some.injEq] at chosen
      obtain ⟨due, rfl⟩ := chosen
      simp only [Cluster.act, phase, due, if_true, Option.some.injEq, Prod.mk.injEq] at acting
      obtain ⟨rfl, rfl, rfl⟩ := acting
      have heard : elector.hear now .pauseOver = { elector with phase := .opening } := by
        simp [Elector.hear, phase]
      refine ⟨?_, flawless⟩
      rw [heard, same]
      -- The clock never goes beyond a pause that is due, so this one is over just now.
      exact .opening rfl ⟨past.terms, past.ended⟩ left (Nat.le_antisymm early due)
  | @campaigning version phase past current =>
      have kept : cluster.coordinator.hasEnded setback.lease = false := same ▸ hasEnded_within
      simp only [Cluster.choice, phase, going, kept, Bool.false_eq_true, if_false,
        Option.some.injEq] at chosen
      subst chosen
      simp only [Cluster.act, phase, Cluster.enterCandidate, flawless, Coordinator.enlist, kept,
        Bool.false_eq_true, if_false, Option.some.injEq, Prod.mk.injEq] at acting
      obtain ⟨rfl, rfl, rfl⟩ := acting
      have heard : elector.hear now .entered =
          { elector with phase := .waiting setback.lease } := by
        simp [Elector.hear, phase]
      refine ⟨?_, rfl⟩
      rw [heard, same]
      exact .waiting rfl ⟨past.terms, past.ended⟩ current
  | waiting phase past current =>
      have kept : cluster.coordinator.hasEnded setback.lease = false := same ▸ hasEnded_within
      have front : cluster.coordinator.isFront elector.key setback.lease = true :=
        same ▸ isFront_within setback elector _
      simp only [Cluster.choice, phase, going, kept, front, Bool.false_eq_true, if_false, if_true,
        Option.some.injEq] at chosen
      subst chosen
      simp only [Cluster.act, phase, kept, front, Bool.not_false, Bool.and_self, if_true,
        Option.some.injEq, Prod.mk.injEq] at acting
      obtain ⟨rfl, rfl, rfl⟩ := acting
      have heard : elector.hear now .won = { elector with phase := .elected setback.lease } := by
        simp [Elector.hear, phase]
      refine ⟨?_, flawless⟩
      rw [heard, same]
      exact .elected rfl ⟨past.terms, past.ended⟩ current
  | elected phase past current =>
      simp only [Cluster.choice, phase, Option.some.injEq] at chosen
      subst chosen
      simp only [Cluster.act, phase, Option.some.injEq, Prod.mk.injEq] at acting
      obtain ⟨rfl, rfl, rfl⟩ := acting
      have heard : elector.hear now .seated = { elector with
          phase := .leading setback.lease setback.terms
          standing := .leader setback.terms
          terms := setback.terms + 1 } := by
        simp [Elector.hear, phase, past.terms]
      refine ⟨?_, flawless⟩
      rw [heard, same]
      exact .leading rfl rfl past.ended (Nat.le_of_eq current)
  | leading phase terms ended late =>
      have kept : cluster.coordinator.hasEnded setback.lease = false := same ▸ hasEnded_within
      simp [Cluster.choice, phase, going, kept] at chosen

theorem Stage.rests (stage : setback.Stage now elector cluster.coordinator)
    (going : elector.cancelled = false) (rests : cluster.choice now elector = none) :
    setback.Rest now elector cluster.coordinator := by
  generalize same : cluster.coordinator = coordinator at stage
  cases stage with
  | losing phase earlier =>
      simp [Cluster.choice, phase, going, same, hasEnded_between earlier] at rests
  | opening phase => simp [Cluster.choice, phase, going] at rests
  | pausing phase past left =>
      simp only [Cluster.choice, phase, going, Bool.false_eq_true, if_false,
        ite_eq_right_iff, reduceCtorEq, imp_false] at rests
      exact .pausing phase past left (Nat.lt_of_not_le rests)
  | campaigning phase => simp [Cluster.choice, phase, going, same, hasEnded_within] at rests
  | waiting phase =>
      simp [Cluster.choice, phase, going, same, hasEnded_within, isFront_within] at rests
  | elected phase => simp [Cluster.choice, phase] at rests
  | leading phase terms ended late => exact .leading phase terms ended late

theorem wake_le_recovery {spent failing : Nat} (left : failing + (spent + 1) = setback.failures)
    (retry : Duration) : setback.moment + (spent + 1) * retry ≤ setback.recovery retry :=
  Nat.add_le_add_left (Nat.mul_le_mul_right _ (by omega)) _

theorem Rest.recovered {coordinator : Coordinator}
    (rests : setback.Rest now elector coordinator)
    (recovered : setback.recovery elector.settings.retry ≤ now) :
    ∃ version, elector.phase = .leading setback.lease setback.terms ∧
      elector.terms = setback.terms + 1 ∧ elector.endedTerms = termsBefore setback.terms ∧
      coordinator = setback.within [setback.candidate elector] version := by
  cases rests with
  | pausing _ _ left early =>
      have later := wake_le_recovery left elector.settings.retry
      exact absurd recovered (Nat.not_le_of_lt (Nat.lt_of_lt_of_le early later))
  | leading phase terms ended => exact ⟨_, phase, terms, ended, rfl⟩

end Setback

namespace Cluster

variable {cluster next : Cluster} {elector : Elector} {now : Instant} {move : Move} {replica : Nat}
  {events : List Event} {notices : List Notice}

/-- What the moves that are chosen keep, a run of them keeps. -/
theorem drain_induction {holds : Cluster → Prop}
    (kept : ∀ cluster next replica move events notices,
      cluster.nextMove now = some (replica, move) →
      cluster.perform? now replica move = some (next, events, notices) →
      holds cluster → holds next)
    (fuel : Nat) (journal : Journal) (initial : holds cluster) :
    holds (drain now fuel (cluster, journal)).1 := by
  induction fuel generalizing cluster journal with
  | zero => exact initial
  | succ fuel ih =>
      simp only [drain]
      split
      · exact initial
      · rename_i replica move chosen
        split
        · exact initial
        · rename_i next events notices performed
          exact ih _ (kept cluster next replica move events notices chosen performed initial)

theorem choice_of_sole (sole : cluster.electors = [elector])
    (chosen : cluster.nextMove now = some (replica, move)) :
    replica = 0 ∧ cluster.choice now elector = some move := by
  obtain ⟨other, found, choice⟩ := nextMove_eq_some chosen
  rw [elector?, sole, List.getElem?_singleton] at found
  split at found
  · rename_i first
    cases found
    exact ⟨first, choice⟩
  · simp at found

theorem perform?_of_sole (sole : cluster.electors = [elector])
    (performed : cluster.perform? now 0 move = some (next, events, notices)) :
    ∃ acted signal recorded, cluster.act now elector move = some (acted, signal, recorded) ∧
      next.coordinator = acted.coordinator ∧ next.faults = acted.faults ∧
      next.electors = [elector.hear now signal] := by
  simp only [perform?, sole, List.getElem?_cons_zero, bind, Option.bind_some,
    Option.bind_eq_some_iff, pure, Option.some.injEq, Prod.mk.injEq] at performed
  obtain ⟨⟨acted, signal, recorded⟩, acting, rfl, _⟩ := performed
  exact ⟨acted, signal, recorded, acting, rfl, rfl, rfl⟩

/-- The elector leads its next term after so many, with its next session, and all that was
before is over. -/
def LeadsTerm (cluster : Cluster) (key : String) (terms : Nat) : Prop :=
  ∃ elector, cluster.elector? 0 = some elector ∧ elector.standing = .leader terms ∧
    elector.phase = .leading ((terms : Lease) + 1) terms ∧
    elector.endedTerms = termsBefore terms ∧
    cluster.coordinator.leaderLease? key = some ((terms : Lease) + 1) ∧
    cluster.coordinator.isLive ((terms : Lease) + 1) = true ∧
    ∀ lease ∈ leasesBefore terms, cluster.coordinator.hasEnded lease = true

/-- An elector that was told to stop opens no session. -/
theorem Acted.spares {acted : Cluster} {signal : Signal}
    (acts : Acted cluster elector move acted signal) (cancelled : elector.cancelled = true)
    (chosen : cluster.choice now elector = some move) :
    acted.coordinator.nextLease = cluster.coordinator.nextLease ∧
      acted.coordinator.failing = cluster.coordinator.failing := by
  rw [choice_of_cancelled cluster now cancelled] at chosen
  cases acts with
  | opened opening => simp [opening, Phase.parting?] at chosen
  | refused opening => simp [opening, Phase.parting?] at chosen
  | entered _ enlisted =>
      rw [Coordinator.enlist_ok enlisted]
      exact ⟨rfl, rfl⟩
  | @closed lease =>
      refine ⟨Coordinator.nextLease_endSession _ lease, ?_⟩
      simp only [withCoordinator, Coordinator.endSession]
      split <;> rfl
  | _ => exact ⟨rfl, rfl⟩

end Cluster

/-- A cluster with a single elector, which has been started. -/
structure Sole (cluster : Cluster) (elector : Elector) : Prop where
  regular : Regular cluster
  alone : cluster.electors = [elector]
  openly : elector.StopsOpenly
  started : elector.hasStarted = true

namespace Sole

variable {cluster next : Cluster} {elector : Elector} {now : Instant} {move : Move} {replica : Nat}
  {events : List Event} {notices : List Notice}

theorem elector? (sole : Sole cluster elector) : cluster.elector? 0 = some elector := by
  rw [Cluster.elector?, sole.alone, List.getElem?_cons_zero]

theorem standing (sole : Sole cluster elector) : elector.HasStanding :=
  sole.regular.standing 0 elector sole.elector?

theorem nextWake (sole : Sole cluster elector) : cluster.nextWake = elector.wake? := by
  rw [Cluster.nextWake, sole.alone]
  cases wakes : elector.wake? <;> simp [wakes]

theorem isLeader (sole : Sole cluster elector) : cluster.isLeader 0 = elector.isLeader := by
  rw [Cluster.isLeader, sole.elector?, Option.any_some]

theorem perform? (sole : Sole cluster elector)
    (chosen : cluster.nextMove now = some (replica, move))
    (performed : cluster.perform? now replica move = some (next, events, notices)) :
    ∃ acted signal recorded, cluster.choice now elector = some move ∧
      cluster.act now elector move = some (acted, signal, recorded) ∧
      next.coordinator = acted.coordinator ∧ next.faults = acted.faults ∧
      Sole next (elector.hear now signal) := by
  obtain ⟨rfl, choice⟩ := Cluster.choice_of_sole sole.alone chosen
  obtain ⟨acted, signal, recorded, acting, coordinator, faults, electors⟩ :=
    Cluster.perform?_of_sole sole.alone performed
  exact ⟨acted, signal, recorded, choice, acting, coordinator, faults,
    sole.regular.perform? performed, electors, elector.hear_stopsOpenly now signal sole.openly,
    elector.hear_hasStarted sole.started now signal⟩

theorem drain (sole : Sole cluster elector) (now : Instant) (fuel : Nat) (journal : Journal) :
    ∃ moved, Sole (Cluster.drain now fuel (cluster, journal)).1 moved := by
  refine @Cluster.drain_induction cluster now (fun cluster => ∃ moved, Sole cluster moved) ?_
    fuel journal ⟨elector, sole⟩
  rintro cluster next replica move events notices chosen performed ⟨elector, sole⟩
  obtain ⟨_, signal, _, _, _, _, _, after⟩ := sole.perform? chosen performed
  exact ⟨elector.hear now signal, after⟩

theorem settle_rests (sole : Sole cluster elector) {journal : Journal} {settled : Elector}
    (after : Sole (cluster.settle now journal).1 settled) :
    (cluster.settle now journal).1.choice now settled = none := by
  obtain ⟨regular, rests⟩ := sole.regular.settle now journal
  refine Cluster.nextMove_eq_none (regular.turns 0 ?_) rests after.elector?
  rw [after.alone]
  exact Nat.one_pos

end Sole

/-- A cluster whose only elector recovers from a setback. -/
structure Recovers (settings : Settings) (setback : Setback) (now : Instant) (cluster : Cluster)
    (elector : Elector) : Prop extends Sole cluster elector where
  settings : elector.settings = settings
  going : elector.cancelled = false
  flawless : cluster.faults = {}
  stage : setback.Stage now elector cluster.coordinator

namespace Recovers

variable {settings : Settings} {setback : Setback} {now later : Instant} {cluster : Cluster}
  {elector : Elector}

theorem hear_settings (elector : Elector) (now : Instant) (signal : Signal) :
    (elector.hear now signal).settings = elector.settings := by
  unfold Elector.hear
  split <;> rfl

theorem settle (recovers : Recovers settings setback now cluster elector) (journal : Journal) :
    ∃ settled, Recovers settings setback now (cluster.settle now journal).1 settled ∧
      setback.Rest now settled (cluster.settle now journal).1.coordinator := by
  have reached : ∃ settled,
      Recovers settings setback now (cluster.settle now journal).1 settled := by
    refine @Cluster.drain_induction cluster now
      (fun cluster => ∃ elector, Recovers settings setback now cluster elector) ?_
      cluster.potential journal ⟨elector, recovers⟩
    rintro cluster next replica move events notices chosen performed ⟨elector, recovers⟩
    obtain ⟨acted, signal, recorded, choice, acting, coordinator, faults, sole⟩ :=
      recovers.perform? chosen performed
    obtain ⟨stage, flawless⟩ := recovers.stage.act recovers.going recovers.flawless choice acting
    refine ⟨elector.hear now signal, sole, ?_, ?_, faults.trans flawless, coordinator ▸ stage⟩
    · exact (hear_settings elector now signal).trans recovers.settings
    · exact (elector.hear_cancelled now signal).trans recovers.going
  obtain ⟨settled, after⟩ := reached
  exact ⟨settled, after, after.stage.rests after.going (recovers.settle_rests after.toSole)⟩

theorem wait (recovers : Recovers settings setback now cluster elector)
    (rests : setback.Rest now elector cluster.coordinator) (ahead : now ≤ later)
    (undue : ∀ wake, cluster.nextWake = some wake → later ≤ wake) :
    Recovers settings setback later cluster elector := by
  refine ⟨recovers.toSole, recovers.settings, recovers.going, recovers.flawless, ?_⟩
  generalize cluster.coordinator = coordinator at rests ⊢
  cases rests with
  | pausing phase past left =>
      refine .pausing phase past left (undue _ ?_)
      simp [recovers.nextWake, Elector.wake?, phase]
  | leading phase terms ended late => exact .leading phase terms ended (Nat.le_trans late ahead)

theorem ahead {wake : Instant} (recovers : Recovers settings setback now cluster elector)
    (rests : setback.Rest now elector cluster.coordinator) (due : cluster.nextWake = some wake) :
    now < wake := by
  rw [recovers.nextWake] at due
  generalize cluster.coordinator = coordinator at rests
  cases rests with
  | pausing phase _ _ early =>
      simp only [Elector.wake?, phase, Option.some.injEq] at due
      exact due ▸ early
  | leading phase => simp [Elector.wake?, phase] at due

theorem idle (recovers : Recovers settings setback now cluster elector)
    (rests : setback.Rest now elector cluster.coordinator) (later : Instant) (ahead : now ≤ later)
    (undue : ∀ wake, cluster.nextWake = some wake → later < wake) :
    setback.Rest later elector cluster.coordinator := by
  rw [recovers.nextWake] at undue
  generalize cluster.coordinator = coordinator at rests ⊢
  cases rests with
  | pausing phase past left =>
      exact .pausing phase past left (undue _ (by simp [Elector.wake?, phase]))
  | leading phase terms ended late => exact .leading phase terms ended (Nat.le_trans late ahead)

/-- At rest an elector leads exactly from the instant of its recovery on. -/
theorem leads_iff (recovers : Recovers settings setback now cluster elector)
    (rests : setback.Rest now elector cluster.coordinator) :
    cluster.isLeader 0 = true ↔ setback.recovery settings.retry ≤ now := by
  have standing := recovers.standing
  rw [recovers.isLeader, ← recovers.settings]
  generalize cluster.coordinator = coordinator at rests
  cases rests with
  | @pausing spent failing _ phase _ left early =>
      have follows : elector.isLeader ≠ true := by
        intro leads
        obtain ⟨lease, term, leading⟩ := standing.leading leads
        simp [phase] at leading
      have later := Setback.wake_le_recovery left elector.settings.retry
      exact iff_of_false follows (Nat.not_le_of_lt (Nat.lt_of_lt_of_le early later))
  | leading phase _ _ late =>
      have leader := (standing setback.terms).mpr ⟨setback.lease, phase⟩
      exact iff_of_true (by rw [Elector.isLeader, leader]) late

theorem leadsTerm (recovers : Recovers settings setback now cluster elector)
    (rests : setback.Rest now elector cluster.coordinator)
    (recovered : setback.recovery settings.retry ≤ now) :
    cluster.LeadsTerm settings.key setback.terms := by
  rw [← recovers.settings] at recovered
  obtain ⟨version, phase, _, ended, service⟩ := rests.recovered recovered
  have leader := (recovers.standing setback.terms).mpr ⟨setback.lease, phase⟩
  refine ⟨elector, recovers.elector?, leader, phase, ended, ?_, ?_, ?_⟩
  · rw [← recovers.settings, ← Coordinator.isFront_iff, service]
    exact Setback.isFront_within setback elector _
  · rw [service]
    simp [Setback.within, Setback.lease, Coordinator.isLive]
  · intro lease earlier
    rw [service]
    simpa [Setback.within, Coordinator.hasEnded] using earlier

/-- When the session ends that an elector leads with, that is its next setback. -/
theorem struck (recovers : Recovers settings setback now cluster elector)
    (rests : setback.Rest now elector cluster.coordinator)
    (recovered : setback.recovery settings.retry ≤ now) (failures : Nat) :
    Recovers settings { moment := now, failures, terms := setback.terms + 1 } now
      ((cluster.failSessions failures).expireLeader settings.key).2 elector := by
  obtain ⟨version, phase, terms, ended, service⟩ :=
    rests.recovered (recovers.settings ▸ recovered)
  have front : (cluster.failSessions failures).coordinator.leaderLease? settings.key =
      some setback.lease := by
    rw [← Coordinator.isFront_iff, ← recovers.settings]
    simp only [Cluster.failSessions, service]
    exact Setback.isFront_within setback elector version
  have expired : ((cluster.failSessions failures).expireLeader settings.key).2 =
      ((cluster.failSessions failures).expire setback.lease).2 := by
    rw [Cluster.expireLeader, front]
  rw [expired]
  have regular : Regular ((cluster.failSessions failures).expire setback.lease).2 := by
    have failing : cluster.happen? (.failSessions failures) =
        some (cluster.failSessions failures) := rfl
    have expires : (cluster.failSessions failures).happen? (.expire setback.lease) =
        some ((cluster.failSessions failures).expire setback.lease).2 := rfl
    exact (recovers.regular.happen? rfl failing).happen? rfl expires
  refine ⟨⟨regular, recovers.alone, recovers.openly, recovers.started⟩, recovers.settings,
    recovers.going, recovers.flawless, ?_⟩
  have service' : ((cluster.failSessions failures).expire setback.lease).2.coordinator =
      Setback.between { moment := now, failures, terms := setback.terms + 1 } failures
        (version + 1) := by
    simp [Cluster.expire, Cluster.failSessions, service, Setback.within, Setback.between,
      Setback.candidate, Setback.lease, Coordinator.failNext, Coordinator.endSession,
      Coordinator.isLive, Coordinator.withdraw, Coordinator.signalEnd, Coordinator.announce,
      leasesBefore_succ]
  rw [service']
  refine .losing phase ?_ terms ?_ rfl
  · rw [leasesBefore_succ]
    exact List.mem_cons_self
  · rw [termsBefore_succ, ended]

end Recovers

theorem recovers_of_start {candidate : String} {settings : Settings} (now : Instant)
    (failures : Nat) :
    Recovers settings { moment := now, failures, terms := 0 } now
      (((Cluster.ofElectors [{ candidate, settings }]).failSessions failures).start now 0).2
      { candidate, settings, phase := .opening } := by
  have new : ∀ elector ∈ [({ candidate, settings } : Elector)], elector.IsNew := by
    simp [Elector.IsNew]
  refine ⟨⟨?_, rfl, ?_, rfl⟩, rfl, rfl, rfl, ?_⟩
  · have failing : (Cluster.ofElectors [{ candidate, settings }]).happen?
        (.failSessions failures) = some _ := rfl
    have starts := ((regular_ofElectors new).happen? rfl failing)
    exact starts.happen? (show Happening.isWhole (.start now 0) = true from rfl) rfl
  · simp [Elector.StopsOpenly]
  · refine .opening rfl ⟨rfl, rfl⟩ (Nat.add_zero failures) (by simp)

/-- A cluster whose only elector has been told to stop, with what it leaves of the service. -/
structure Halts (nextLease : Lease) (failing : Nat) (cluster : Cluster) (elector : Elector) : Prop
    extends Sole cluster elector where
  cancelled : elector.cancelled = true
  nextLease : cluster.coordinator.nextLease = nextLease
  failing : cluster.coordinator.failing = failing

namespace Halts

variable {nextLease : Lease} {failing : Nat} {cluster : Cluster} {elector : Elector}

/-- Told to stop, an elector stops at that instant and tries to open no session any more. -/
theorem settle (halts : Halts nextLease failing cluster elector) (now : Instant)
    (journal : Journal) :
    ∃ stopped, Halts nextLease failing (cluster.settle now journal).1 stopped ∧
      stopped.phase = .stopped := by
  have reached : ∃ stopped, Halts nextLease failing (cluster.settle now journal).1 stopped := by
    refine @Cluster.drain_induction cluster now
      (fun cluster => ∃ elector, Halts nextLease failing cluster elector) ?_
      cluster.potential journal ⟨elector, halts⟩
    rintro cluster next replica move events notices chosen performed ⟨elector, halts⟩
    obtain ⟨acted, signal, recorded, choice, acting, coordinator, _, sole⟩ :=
      halts.perform? chosen performed
    obtain ⟨sameLease, sameFailing⟩ :=
      (Cluster.act_acted acting).spares halts.cancelled choice
    refine ⟨elector.hear now signal, sole, ?_, ?_, ?_⟩
    · exact (elector.hear_cancelled now signal).trans halts.cancelled
    · rw [coordinator, sameLease, halts.nextLease]
    · rw [coordinator, sameFailing, halts.failing]
  obtain ⟨stopped, after⟩ := reached
  refine ⟨stopped, after, ?_⟩
  have rests := halts.settle_rests after.toSole
  have started := after.started
  rw [Cluster.choice_of_cancelled _ now after.cancelled] at rests
  cases phase : stopped.phase <;> simp_all [Phase.parting?, Elector.hasStarted]

/-- Once it has stopped, nothing happens any more. -/
theorem settle_eq (halts : Halts nextLease failing cluster elector)
    (stopped : elector.phase = .stopped) (now : Instant) (journal : Journal) :
    cluster.settle now journal = (cluster, journal) := by
  have rests : cluster.nextMove now = none := by
    rw [Option.eq_none_iff_forall_ne_some]
    rintro ⟨replica, move⟩ chosen
    have choice := (Cluster.choice_of_sole halts.alone chosen).2
    simp [Cluster.choice, stopped] at choice
  rw [Cluster.settle]
  cases cluster.potential with
  | zero => rfl
  | succ fuel => rw [Cluster.drain, rests]

end Halts

theorem Sole.cancel {cluster : Cluster} {elector : Elector} (sole : Sole cluster elector) :
    Halts cluster.coordinator.nextLease cluster.coordinator.failing (cluster.cancel 0)
      { elector with cancelled := true } := by
  have cancels : cluster.happen? (.cancel 0) = some (cluster.cancel 0) := rfl
  refine ⟨⟨sole.regular.happen? rfl cancels, ?_, sole.openly, sole.started⟩, rfl, rfl, rfl⟩
  rw [Cluster.cancel, Cluster.modifyElector, sole.alone]
  rfl

end Rota.Election
