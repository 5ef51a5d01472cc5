import Rota.Election.Cluster
import Rota.Proofs.Run

/-!
Histories of a cluster: moves of its electors, and what comes from outside, in any order. The
end of a session may come at once, or in its stages with other happenings between them.
-/

namespace Rota.Election

inductive Happening where
  | move (now : Instant) (replica : Nat) (move : Move)
  | start (now : Instant) (replica : Nat)
  | cancel (replica : Nat)
  | expire (lease : Lease)
  /-- The first stage of an end that nobody asked for. -/
  | withdraw (lease : Lease)
  /-- The first stage of an end that a closing elector asks for. -/
  | beginClose (replica : Nat)
  | signalEnd (lease : Lease)
  | announce
  | failSessions (count : Nat)
  | setFaults (faults : Faults)
deriving DecidableEq, Repr

def Happening.isExpiry : Happening → Bool
  | .expire _ => true
  | .withdraw _ => true
  | _ => false

namespace Cluster

def withCoordinator (cluster : Cluster) (coordinator : Coordinator) : Cluster :=
  { cluster with coordinator }

def happen? (cluster : Cluster) : Happening → Option Cluster
  | .move now replica move => (cluster.perform? now replica move).map (·.1)
  | .start now replica => some (cluster.start now replica).2
  | .cancel replica => some (cluster.cancel replica)
  | .expire lease => some (cluster.expire lease).2
  | .withdraw lease => some (cluster.withCoordinator (cluster.coordinator.withdraw lease))
  | .beginClose replica =>
    match (cluster.elector? replica).map Elector.phase with
    | some (.closing lease) =>
      some (cluster.withCoordinator (cluster.coordinator.withdraw lease))
    | _ => none
  | .signalEnd lease =>
    if cluster.coordinator.isLive lease then none
    else some (cluster.withCoordinator (cluster.coordinator.signalEnd lease))
  | .announce => some (cluster.withCoordinator cluster.coordinator.announce)
  | .failSessions count => some (cluster.failSessions count)
  | .setFaults faults => some { cluster with faults }

def follow? (cluster : Cluster) (history : List Happening) : Option Cluster :=
  history.foldlM happen? cluster

theorem follow?_induction {holds : Cluster → Prop} {history : List Happening}
    (kept : ∀ happening ∈ history, ∀ cluster next, cluster.happen? happening = some next →
      holds cluster → holds next)
    {first last : Cluster} (followed : first.follow? history = some last)
    (initial : holds first) : holds last :=
  run_induction kept followed initial

/-- What settling makes of a cluster is what some history of moves makes of it. -/
theorem settle_follow? (cluster : Cluster) (now : Instant) (journal : Journal) :
    ∃ history, (∀ happening ∈ history, ∃ replica move, happening = .move now replica move) ∧
      cluster.follow? history = some (cluster.settle now journal).1 := by
  simp only [settle]
  generalize cluster.potential = fuel
  induction fuel generalizing cluster journal with
  | zero => exact ⟨[], by simp, rfl⟩
  | succ fuel ih =>
      simp only [drain]
      split
      · exact ⟨[], by simp, rfl⟩
      · rename_i replica move _
        split
        · exact ⟨[], by simp, rfl⟩
        · rename_i next events notices performed
          obtain ⟨history, moves, followed⟩ := ih next
            ((events.foldl (fun journal event => journal.record now event) journal).noteAll
              now notices)
          refine ⟨.move now replica move :: history, ?_, ?_⟩
          · intro happening member
            rcases List.mem_cons.mp member with rfl | later
            · exact ⟨replica, move, rfl⟩
            · exact moves happening later
          · have happened : cluster.happen? (.move now replica move) = some next := by
              simp [happen?, performed]
            simpa [follow?, happened] using followed

/-- All that a move can do: to the cluster, and as a signal to the elector that makes it. -/
inductive Acted (cluster : Cluster) (elector : Elector) : Move → Cluster → Signal → Prop
  | opened {lease coordinator} : elector.phase = .opening →
      cluster.coordinator.createSession = (.ok lease, coordinator) →
      Acted cluster elector .open (cluster.withCoordinator coordinator) (.sessionOpened lease)
  | refused {error coordinator} : elector.phase = .opening →
      cluster.coordinator.createSession = (.error error, coordinator) →
      Acted cluster elector .open (cluster.withCoordinator coordinator) (.sessionRefused error)
  | rested {wake} : elector.wake? = some wake → Acted cluster elector .resume cluster .pauseOver
  | entered {lease coordinator} : elector.phase = .campaigning lease →
      cluster.coordinator.enlist elector.key lease elector.candidate = .ok coordinator →
      Acted cluster elector .enter (cluster.withCoordinator coordinator.announce) .entered
  | rejected {lease} : elector.phase = .campaigning lease →
      cluster.coordinator.hasEnded lease = true →
      Acted cluster elector .enter cluster (.campaignRefused .sessionClosed)
  | foiled {lease campaigns} : elector.phase = .campaigning lease →
      cluster.faults.campaigns = campaigns + 1 →
      Acted cluster elector .enter { cluster with faults := { cluster.faults with campaigns } }
        (.campaignRefused injectedCampaign)
  | won {lease} : elector.phase = .waiting lease → cluster.coordinator.hasEnded lease = false →
      cluster.coordinator.isFront elector.key lease = true →
      Acted cluster elector .win cluster .won
  | returned {lease} : elector.phase = .waiting lease →
      cluster.coordinator.hasEnded lease = true →
      Acted cluster elector .refuse cluster (.campaignRefused .sessionClosed)
  | seated {lease} : elector.phase = .elected lease → Acted cluster elector .seat cluster .seated
  | lost {lease} : elector.phase = .campaigning lease ∨ elector.phase = .waiting lease ∨
        (∃ term, elector.phase = .leading lease term) →
      cluster.coordinator.hasEnded lease = true →
      Acted cluster elector .lose cluster .sessionLost
  | heeded : elector.cancelled = true → Acted cluster elector .heed cluster .cancelSeen
  | closed {lease} : elector.phase = .closing lease →
      Acted cluster elector .close
        (cluster.withCoordinator (cluster.coordinator.endSession lease).2) (.sessionClosed none)
  | unclosed {lease closes} : elector.phase = .closing lease →
      cluster.faults.closes = closes + 1 →
      Acted cluster elector .close { cluster with faults := { cluster.faults with closes } }
        (.sessionClosed (some injectedClose))

/-- What a move can do to the service, if it opens a session, wins with one or closes one. -/
inductive Effect (coordinator : Coordinator) (elector : Elector) : Coordinator → Signal → Prop
  | opened {lease next} : elector.phase = .opening →
      coordinator.createSession = (.ok lease, next) →
      Effect coordinator elector next (.sessionOpened lease)
  | refused {error next} : coordinator.createSession = (.error error, next) →
      Effect coordinator elector next (.sessionRefused error)
  | entered {lease next} : elector.phase = .campaigning lease →
      coordinator.enlist elector.key lease elector.candidate = .ok next →
      Effect coordinator elector next.announce .entered
  | won {lease} : elector.phase = .waiting lease →
      coordinator.isFront elector.key lease = true →
      Effect coordinator elector coordinator .won
  | closed {lease} : elector.phase = .closing lease →
      Effect coordinator elector (coordinator.endSession lease).2 (.sessionClosed none)
  | quiet {signal} : (∀ lease, signal ≠ .sessionOpened lease) → signal ≠ .won →
      Effect coordinator elector coordinator signal

section

variable {cluster next acted : Cluster} {now : Instant} {elector : Elector} {move : Move}
  {lease : Lease} {signal : Signal} {events : List Event}

theorem openSession_acted (opening : elector.phase = .opening)
    (opened : cluster.openSession elector = (acted, signal, events)) :
    Acted cluster elector .open acted signal := by
  simp only [openSession] at opened
  cases created : cluster.coordinator.createSession with
  | mk answer coordinator =>
      rw [created] at opened
      cases answer with
      | ok lease =>
          cases opened
          exact .opened opening created
      | error error =>
          cases opened
          exact .refused opening created

theorem enterCandidate_acted (campaigning : elector.phase = .campaigning lease)
    (entered : cluster.enterCandidate elector lease = (acted, signal, events)) :
    Acted cluster elector .enter acted signal := by
  simp only [enterCandidate] at entered
  split at entered
  · rename_i left
    cases entered
    exact .foiled campaigning left
  · split at entered
    · rename_i coordinator enlisted
      cases entered
      exact .entered campaigning enlisted
    · rename_i error refused
      cases entered
      simp only [Coordinator.enlist] at refused
      split at refused
      · rename_i ended
        cases refused
        exact .rejected campaigning ended
      · simp at refused

theorem closeSession_acted (closing : elector.phase = .closing lease)
    (closed : cluster.closeSession lease = (acted, signal, events)) :
    Acted cluster elector .close acted signal := by
  simp only [closeSession] at closed
  split at closed
  · rename_i left
    cases closed
    exact .unclosed closing left
  · cases closed
    exact .closed closing

theorem act_acted (acting : cluster.act now elector move = some (acted, signal, events)) :
    Acted cluster elector move acted signal := by
  have quietly {quiet : Signal} {allowed : Prop} [Decidable allowed]
      (acts : allowed → Acted cluster elector move cluster quiet)
      (same : (if allowed then some (cluster, quiet, []) else none) =
        some (acted, signal, events)) : Acted cluster elector move acted signal := by
    obtain ⟨holds, same⟩ := Option.ite_none_right_eq_some.mp same
    cases same
    exact acts holds
  simp only [act] at acting
  split at acting
  · rename_i opening
    exact openSession_acted opening (Option.some.inj acting)
  · rename_i resting
    exact quietly (fun _ => .rested (by rw [Elector.wake?, resting])) acting
  · rename_i resting
    exact quietly (fun _ => .rested (by rw [Elector.wake?, resting])) acting
  · rename_i campaigning
    exact enterCandidate_acted campaigning (Option.some.inj acting)
  · rename_i waiting
    refine quietly (fun front => ?_) acting
    rw [Bool.and_eq_true, Bool.not_eq_true'] at front
    exact .won waiting front.1 front.2
  · rename_i waiting
    exact quietly (.returned waiting) acting
  · rename_i elected
    cases acting
    exact .seated elected
  · rename_i campaigning
    exact quietly (.lost (.inl campaigning)) acting
  · rename_i waiting
    exact quietly (.lost (.inr (.inl waiting))) acting
  · rename_i leading
    exact quietly (.lost (.inr (.inr ⟨_, leading⟩))) acting
  · exact quietly .heeded acting
  · rename_i closing
    exact closeSession_acted closing (Option.some.inj acting)
  · simp at acting

theorem perform?_acted {replica : Nat} {notices : List Notice}
    (moved : cluster.perform? now replica move = some (next, events, notices)) :
    ∃ elector acted signal, cluster.elector? replica = some elector ∧
      Acted cluster elector move acted signal ∧
      next = { acted with
        electors := cluster.electors.set replica (elector.hear now signal)
        turns := turned cluster.turns replica (elector.hear now signal) } := by
  simp only [perform?, bind, Option.bind_eq_some_iff, pure, Option.some.injEq] at moved
  obtain ⟨elector, found, ⟨acted, signal, recorded⟩, acting, moved⟩ := moved
  have acts := act_acted acting
  cases moved
  exact ⟨elector, acted, signal, found, acts, rfl⟩

theorem Acted.effect (acts : Acted cluster elector move acted signal) :
    Effect cluster.coordinator elector acted.coordinator signal := by
  cases acts with
  | opened opening created => exact .opened opening created
  | refused _ created => exact .refused created
  | entered campaigning enlisted => exact .entered campaigning enlisted
  | won waiting _ front => exact .won waiting front
  | closed closing => exact .closed closing
  | _ => exact .quiet (by simp) (by simp)

/-- A move changes the service by its effect, and one elector by the signal of that effect. -/
theorem perform?_effect {replica : Nat} {notices : List Notice}
    (moved : cluster.perform? now replica move = some (next, events, notices)) :
    ∃ elector signal, cluster.elector? replica = some elector ∧
      Effect cluster.coordinator elector next.coordinator signal ∧
      ∀ other, next.elector? other =
        if other = replica then some (elector.hear now signal) else cluster.elector? other := by
  obtain ⟨elector, acted, signal, found, acts, rfl⟩ := perform?_acted moved
  refine ⟨elector, signal, found, acts.effect, ?_⟩
  intro other
  have bound : replica < cluster.electors.length := (List.getElem?_eq_some_iff.mp found).1
  simp only [elector?, List.getElem?_set, bound, if_true, eq_comm (a := other)]

end

theorem elector?_modifyElector (cluster : Cluster) (replica other : Nat)
    (change : Elector → Elector) :
    (cluster.modifyElector replica change).elector? other =
      if other = replica then (cluster.elector? other).map change
      else cluster.elector? other := by
  simp only [modifyElector, elector?, List.getElem?_modify, eq_comm (a := other)]
  split <;> simp

end Cluster

end Rota.Election
