import Rota.Proofs.Election.Recovery
import Rota.Proofs.Replica.Workday

/-!
The recoveries of a replica with an election of its own, on the clock. Main statement: however
often its session ends, and however many sessions cannot be created after that, it leads again
exactly when it has paused once for each failure, unless it is told to stop.
-/

namespace Rota

open Rota.Election Rota.Schedule Rota.Task

namespace Replica

variable {replica : Replica} {now target : Instant} {rest : Instant → Cluster → Prop}

/-! What the other parts of a replica leave of its cluster. -/

theorem perform_cluster (replica : Replica) (firing : Firing Duty) :
    (replica.perform firing).cluster = replica.cluster ∧
      (replica.perform firing).now = replica.now := by
  have deals : replica.Deals (fun _ => True) (replica.perform firing) :=
    deals_perform replica firing fun _ _ => trivial
  exact ⟨deals.cluster, deals.now⟩

theorem settleEngine_cluster (replica : Replica) :
    replica.settleEngine.cluster = replica.cluster ∧ replica.settleEngine.now = replica.now := by
  have performed (firings : List (Firing Duty)) (replica : Replica) :
      (firings.foldl perform replica).cluster = replica.cluster ∧
        (firings.foldl perform replica).now = replica.now := by
    induction firings generalizing replica with
    | nil => exact ⟨rfl, rfl⟩
    | cons firing firings ih =>
        obtain ⟨cluster, now⟩ := perform_cluster replica firing
        obtain ⟨laterCluster, laterNow⟩ := ih (replica.perform firing)
        exact ⟨laterCluster.trans cluster, laterNow.trans now⟩
  exact performed _ _

theorem settle_cluster (replica : Replica) :
    replica.settle.cluster = (replica.cluster.settle replica.now replica.journal).1 ∧
      replica.settle.now = replica.now := by
  obtain ⟨first, firstNow⟩ := settleEngine_cluster replica.settleCluster
  obtain ⟨second, secondNow⟩ := settleEngine_cluster replica.settleCluster.settleEngine
  exact ⟨second.trans first, secondNow.trans firstNow⟩

theorem settleAt_cluster (replica : Replica) (instant : Instant) :
    ∃ journal, (replica.settleAt instant).cluster =
      (replica.cluster.settle instant journal).1 := by
  obtain ⟨settled, _⟩ := settle_cluster { replica with now := instant }.wakeCrew
  refine ⟨{ replica with now := instant }.wakeCrew.journal, ?_⟩
  rw [settleAt, settled]
  rfl

theorem nextWake_cluster {wake : Instant} (due : replica.cluster.nextWake = some wake) :
    ∃ first, replica.nextWake = some first ∧ first ≤ wake := by
  have member : wake ∈ [replica.cluster.nextWake, replica.crew.nextWake,
      replica.engine.nextWake.map replica.instantOf].filterMap id := by
    simp [due]
  cases found : replica.nextWake with
  | none =>
      rw [nextWake, List.min?_eq_none_iff] at found
      exact absurd (found ▸ member) List.not_mem_nil
  | some first =>
      rw [nextWake, List.min?_eq_some_iff] at found
      exact ⟨first, rfl, found.2 wake member⟩

/-- What a cluster can be at with nothing to do, while time goes on around it. -/
structure Lasts (rest : Instant → Cluster → Prop) : Prop where
  ahead {now : Instant} {cluster : Cluster} {wake : Instant} :
    rest now cluster → cluster.nextWake = some wake → now < wake
  idle {now later : Instant} {cluster : Cluster} : rest now cluster → now ≤ later →
    (∀ wake, cluster.nextWake = some wake → later < wake) → rest later cluster
  settle {now later : Instant} {cluster : Cluster} (journal : Journal) : rest now cluster →
    now ≤ later → (∀ wake, cluster.nextWake = some wake → later ≤ wake) →
    rest later (cluster.settle later journal).1

theorem runBetween_cluster (lasts : Lasts rest) (replica : Replica) (early : now ≤ target)
    (initial : rest now replica.cluster) :
    rest target (replica.runBetween now target).cluster := by
  fun_induction runBetween replica now target with
  | case1 replica now asleep =>
      refine lasts.idle initial early fun wake due => ?_
      obtain ⟨first, found, _⟩ := @nextWake_cluster replica wake due
      simp [asleep] at found
  | case2 replica now first due reached ih =>
      obtain ⟨journal, settled⟩ := settleAt_cluster replica (max first (now + 1))
      refine ih reached ?_
      rw [settled]
      refine lasts.settle journal initial (by lia) fun wake clusterDue => ?_
      obtain ⟨other, found, bound⟩ := @nextWake_cluster replica wake clusterDue
      obtain rfl : first = other := by simpa [due] using found
      have ahead := lasts.ahead initial clusterDue
      lia
  | case3 replica now first due unreached =>
      refine lasts.idle initial early fun wake clusterDue => ?_
      obtain ⟨other, found, bound⟩ := @nextWake_cluster replica wake clusterDue
      obtain rfl : first = other := by simpa [due] using found
      have ahead := lasts.ahead initial clusterDue
      lia

theorem runBetween_now (replica : Replica) (now target : Instant) :
    (replica.runBetween now target).now = target := by
  fun_induction runBetween replica now target with
  | case1 => rfl
  | case2 _ _ _ _ _ ih => exact ih
  | case3 => rfl

theorem advance_now (replica : Replica) (duration : Nat) :
    (replica.advance duration).now = replica.now + duration :=
  runBetween_now replica replica.now (replica.now + duration)

theorem advance_cluster (lasts : Lasts rest) (initial : rest replica.now replica.cluster)
    (duration : Nat) : rest (replica.now + duration) (replica.advance duration).cluster :=
  runBetween_cluster lasts replica (Nat.le_add_right _ _) initial

/-! The course of a replica whose sessions end. -/

/-- What comes from outside changes the cluster. -/
def disturb (replica : Replica) (change : Cluster → Cluster) : Replica :=
  { replica with cluster := change replica.cluster }

/-- Starts the elector, at a time at which so many sessions cannot be created. -/
def begin (replica : Replica) (failures : Nat) : Replica :=
  replica.disturb fun cluster => ((cluster.failSessions failures).start replica.now self).2

/-- Goes on until an outage: the session of the leader ends, and so many new ones cannot be
created. -/
def suffer (key : String) (replica : Replica) (outage : Outage) : Replica :=
  (replica.settle.advance (outage.moment - replica.now)).disturb fun cluster =>
    ((cluster.failSessions outage.failures).expireLeader key).2

/-- The time has come to an instant, and so many moves have been made there. -/
def proceed (replica : Replica) (instant : Instant) (moves : Nat) : Replica :=
  let (cluster, journal) := Cluster.drain instant moves (replica.cluster, replica.journal)
  { replica with now := instant, cluster, journal }

def halt (replica : Replica) : Replica := (replica.disturb (·.cancel self)).settle

/-- Told to stop, the elector stops at the same instant and for good. In between it asks for no
session: the service would have counted a new one, or one failure fewer to come. -/
structure HaltsAtOnce (replica : Replica) : Prop where
  now : replica.halt.now = replica.now
  stops : (replica.halt.cluster.elector? self).map Elector.phase = some .stopped
  follows : replica.halt.isLeader = false
  nextLease : replica.halt.cluster.coordinator.nextLease = replica.cluster.coordinator.nextLease
  failing : replica.halt.cluster.coordinator.failing = replica.cluster.coordinator.failing
  stays : ∀ duration, (replica.halt.advance duration).cluster = replica.halt.cluster

/-- At rest, an elector recovers from a setback. -/
def Recovering (settings : Election.Settings) (setback : Setback) (now : Instant)
    (cluster : Cluster) : Prop :=
  ∃ elector, Recovers settings setback now cluster elector ∧
    setback.Rest now elector cluster.coordinator

variable {settings : Election.Settings} {setback : Setback} {elector : Elector}

theorem recovering_lasts : Lasts (Recovering settings setback) where
  ahead := fun ⟨_, recovers, rests⟩ due => recovers.ahead rests due
  idle := by
    rintro now later cluster ⟨elector, recovers, rests⟩ ahead undue
    refine ⟨elector, recovers.wait rests ahead fun wake due => ?_, ?_⟩
    · exact Nat.le_of_lt (undue wake due)
    · exact recovers.idle rests later ahead undue
  settle := by
    rintro now later cluster journal ⟨elector, recovers, rests⟩ ahead undue
    exact (recovers.wait rests ahead undue).settle journal

/-- Struck by a setback, a replica settles and goes on. -/
theorem recovering_advance
    (recovers : Recovers settings setback replica.now replica.cluster elector) (duration : Nat) :
    (replica.settle.advance duration).now = replica.now + duration ∧
      Recovering settings setback (replica.now + duration)
        (replica.settle.advance duration).cluster := by
  obtain ⟨cluster, now⟩ := settle_cluster replica
  have settled : Recovering settings setback replica.settle.now replica.settle.cluster := by
    rw [cluster, now]
    exact recovers.settle _
  have advanced := advance_cluster recovering_lasts settled duration
  rw [now] at advanced
  refine ⟨?_, advanced⟩
  rw [advance_now, now]

/-- An outage during a term is the next setback. -/
theorem suffer_recovers (recovers : Recovers settings setback replica.now replica.cluster elector)
    (current : replica.now = setback.moment) {outage : Outage}
    (inTerm : setback.recovery settings.retry ≤ outage.moment) :
    (replica.suffer settings.key outage).now = outage.moment ∧
      ∃ elector, Recovers settings ⟨outage, setback.terms + 1⟩ outage.moment
        (replica.suffer settings.key outage).cluster elector := by
  have ahead : replica.now + (outage.moment - replica.now) = outage.moment := by
    have later : setback.moment ≤ setback.recovery settings.retry := Nat.le_add_right _ _
    lia
  obtain ⟨now, elector, waited, rests⟩ :=
    recovering_advance recovers (outage.moment - replica.now)
  rw [ahead] at now waited rests
  exact ⟨now, elector, waited.struck rests inTerm outage.failures⟩

theorem foldl_suffer_recovers {outages : List Outage}
    (recovers : Recovers settings setback replica.now replica.cluster elector)
    (current : replica.now = setback.moment)
    (inTerms : (setback.toOutage :: outages).IsChain fun last next =>
      last.recovery settings.retry ≤ next.moment) :
    (outages.foldl (suffer settings.key) replica).now =
        (outages.getLastD setback.toOutage).moment ∧
      ∃ elector, Recovers settings
        ⟨outages.getLastD setback.toOutage, setback.terms + outages.length⟩
        (outages.getLastD setback.toOutage).moment
        (outages.foldl (suffer settings.key) replica).cluster elector := by
  induction outages generalizing replica setback elector with
  | nil => exact ⟨current, elector, current ▸ recovers⟩
  | cons outage outages ih =>
      obtain ⟨inTerm, later⟩ := List.isChain_cons_cons.mp inTerms
      obtain ⟨now, struck, next⟩ := suffer_recovers recovers current inTerm
      rw [← now] at next
      have reached := ih next now later
      rw [List.getLastD_cons, List.length_cons, List.foldl_cons, Nat.add_comm outages.length 1,
        ← Nat.add_assoc]
      exact reached

theorem begin_recovers {candidate : String} (failures : Nat)
    (alone : replica.cluster = Cluster.ofElectors [{ candidate, settings }]) :
    ∃ elector, Recovers settings { moment := replica.now, failures, terms := 0 }
      (replica.begin failures).now (replica.begin failures).cluster elector := by
  refine ⟨{ candidate, settings, phase := .opening }, ?_⟩
  simp only [begin, disturb, alone]
  exact recovers_of_start replica.now failures

/-! What a replica does that is told to stop. -/

theorem halted_lasts {halted : Cluster} {nextLease : Lease} {failing : Nat}
    (halts : Halts nextLease failing halted elector) (stopped : elector.phase = .stopped) :
    Lasts fun _ cluster => cluster = halted where
  ahead := by
    rintro now cluster wake rfl due
    simp [Cluster.nextWake, halts.alone, Elector.wake?, stopped] at due
  idle := fun same _ _ => same
  settle := by
    rintro now later cluster journal rfl _ _
    rw [halts.settle_eq stopped]

theorem haltsAtOnce_of_sole (sole : Sole replica.cluster elector) : replica.HaltsAtOnce := by
  obtain ⟨cluster, now⟩ := settle_cluster (replica.disturb (·.cancel self))
  obtain ⟨stopped, halted, phase⟩ := sole.cancel.settle replica.now replica.journal
  have same : replica.halt.cluster =
      ((replica.cluster.cancel 0).settle replica.now replica.journal).1 := by
    rw [halt, cluster]
    rfl
  rw [← same] at halted
  have found : replica.halt.cluster.elector? self = some stopped := halted.elector?
  refine ⟨?_, ?_, ?_, halted.nextLease, halted.failing, ?_⟩
  · rw [halt, now]
    rfl
  · rw [found, Option.map_some, phase]
  · rw [isLeader, Cluster.isLeader, found, Option.any_some]
    refine Bool.eq_false_iff.mpr fun leads => ?_
    obtain ⟨lease, term, leading⟩ := halted.standing.leading leads
    simp [phase] at leading
  · intro duration
    exact advance_cluster (halted_lasts halted phase) rfl duration

theorem proceed_haltsAtOnce (sole : Sole replica.cluster elector) (instant : Instant)
    (moves : Nat) : (replica.proceed instant moves).HaltsAtOnce := by
  obtain ⟨moved, after⟩ := sole.drain instant moves replica.journal
  exact @haltsAtOnce_of_sole (replica.proceed instant moves) moved after

/-- However often the session of a sole elector ends during a term, it leads again exactly when
it has paused once for each session that could not be created since; told to stop at any instant,
between any two of its moves, it stops. -/
theorem recovers_exactly {candidate : String} {failures : Nat} {outages : List Outage}
    (alone : replica.cluster = Cluster.ofElectors [{ candidate, settings }])
    (inTerms : (⟨replica.now, failures⟩ :: outages).IsChain fun last next =>
      last.recovery settings.retry ≤ next.moment) (duration : Nat) :
    let latest := outages.getLastD ⟨replica.now, failures⟩
    let struck := outages.foldl (suffer settings.key) (replica.begin failures)
    let reached := struck.settle.advance duration
    reached.now = latest.moment + duration ∧
      (reached.isLeader = true ↔ latest.recovery settings.retry ≤ reached.now) ∧
      (reached.isLeader = true → reached.cluster.LeadsTerm settings.key outages.length) ∧
      ∀ before ∈ [struck, reached], ∀ instant moves,
        (before.proceed instant moves).HaltsAtOnce := by
  intro latest struck reached
  obtain ⟨elector, begins⟩ := begin_recovers failures alone
  obtain ⟨now, struckElector, strikes⟩ := foldl_suffer_recovers begins rfl inTerms
  rw [← now] at strikes
  obtain ⟨reachedNow, reachedElector, recovers, rests⟩ := recovering_advance strikes duration
  rw [← reachedNow] at recovers rests
  have leads := recovers.leads_iff rests
  refine ⟨?_, leads, ?_, ?_⟩
  · exact reachedNow.trans (now ▸ rfl)
  · intro leading
    simpa using recovers.leadsTerm rests (leads.mp leading)
  · intro before member instant moves
    simp only [List.mem_cons, List.not_mem_nil, or_false] at member
    obtain rfl | rfl := member
    · exact proceed_haltsAtOnce strikes.toSole instant moves
    · exact proceed_haltsAtOnce recovers.toSole instant moves

/-- Two sessions cannot be created at first, and one more after the first term. -/
theorem second_term_begins :
    let settings : Election.Settings := {}
    let replica : Replica := { cluster := Cluster.ofElectors [{ candidate := "left", settings }] }
    let outage : Outage := { moment := 12000, failures := 1 }
    let struck := [outage].foldl (suffer settings.key) (replica.begin 2)
    let reached := struck.settle.advance 5000
    ([⟨0, 2⟩, outage].IsChain fun last next => last.recovery settings.retry ≤ next.moment) ∧
      (struck.settle.advance 4999).isLeader = false ∧ reached.isLeader = true ∧
      reached.now = 17000 ∧ reached.cluster.LeadsTerm settings.key 1 ∧
      (struck.proceed 14000 0).HaltsAtOnce := by
  intro settings replica outage struck reached
  have inTerms : [⟨0, 2⟩, outage].IsChain fun last next =>
      last.recovery settings.retry ≤ next.moment := by
    simp [Outage.recovery, settings, outage]
  have recovers (duration : Nat) :=
    @recovers_exactly replica settings "left" 2 [outage] rfl inTerms duration
  obtain ⟨earlyNow, early, _⟩ := recovers 4999
  obtain ⟨now, leads, term, halts⟩ := recovers 5000
  have leading : reached.isLeader = true := leads.mpr (by rw [now]; decide)
  refine ⟨inTerms, ?_, leading, now, term leading, halts struck (List.mem_cons_self ..) 14000 0⟩
  refine Bool.eq_false_iff.mpr fun leads => ?_
  have recovered := early.mp leads
  rw [earlyNow] at recovered
  exact absurd recovered (by decide)

end Replica

end Rota
