import Mathlib.Algebra.GroupWithZero.Nat
import Mathlib.Algebra.Order.BigOperators.Group.List
import Mathlib.Algebra.Order.Group.Nat
import Rota.Proofs.Election.Agreement

/-!
Settling a cluster comes to rest. A move costs its elector some of what is left to do, and only
the end of a session gives others more; but a session is ended by the one elector that holds it,
and a session that is opened has never ended before.
-/

namespace Rota

/-- A sum is lower when one item is worth less by more than is added, and no other worth more. -/
theorem sum_map_set_lt {α : Type} {items : List α} {place : Nat} {item changed : α}
    {before after : α → Nat} {more less : Nat} (found : items[place]? = some item)
    (others : ∀ other kept, other ≠ place → items[other]? = some kept → after kept ≤ before kept)
    (lower : after changed + more < before item + less) :
    ((items.set place changed).map after).sum + more < (items.map before).sum + less := by
  induction items generalizing place with
  | nil => simp at found
  | cons head rest ih =>
      cases place with
      | zero =>
          obtain rfl := Option.some.inj found
          have sums : (rest.map after).sum ≤ (rest.map before).sum := by
            apply List.sum_le_sum
            intro kept member
            obtain ⟨other, stood⟩ := List.getElem?_of_mem member
            exact others (other + 1) kept (Nat.succ_ne_zero _) stood
          simp only [List.set_cons_zero, List.map_cons, List.sum_cons]
          omega
      | succ place =>
          have first := others 0 head (Nat.succ_ne_zero _).symm rfl
          have sums := ih found fun other kept differ stood =>
            others (other + 1) kept (mt Nat.succ.inj differ) stood
          simp only [List.set_cons_succ, List.map_cons, List.sum_cons]
          omega

namespace Election

namespace Coordinator

/-- All sessions, live or ended, have leases that were given out. -/
structure Numbered (coordinator : Coordinator) : Prop where
  live : ∀ lease, coordinator.isLive lease = true → lease < coordinator.nextLease
  ended : ∀ lease, coordinator.hasEnded lease = true → lease < coordinator.nextLease

variable {coordinator : Coordinator}

theorem hasEnded_endSession (coordinator : Coordinator) (ending lease : Lease) :
    (coordinator.endSession ending).2.hasEnded lease = true ↔
      coordinator.hasEnded lease = true ∨ lease = ending ∧ coordinator.isLive ending = true := by
  simp only [endSession]
  cases live : coordinator.isLive ending with
  | false => simp [hasEnded, withdraw]
  | true => simp [hasEnded, withdraw, signalEnd, announce, or_comm]

theorem nextLease_endSession (coordinator : Coordinator) (lease : Lease) :
    (coordinator.endSession lease).2.nextLease = coordinator.nextLease := by
  simp only [endSession]
  split <;> rfl

theorem Numbered.fresh (numbered : coordinator.Numbered) :
    coordinator.hasEnded coordinator.nextLease = false := by
  apply Bool.eq_false_iff.mpr
  intro ended
  exact Int.lt_irrefl _ (numbered.ended _ ended)

theorem Numbered.endSession (numbered : coordinator.Numbered) (lease : Lease) :
    (coordinator.endSession lease).2.Numbered := by
  refine ⟨?_, ?_⟩
  · intro other live
    rw [nextLease_endSession]
    exact numbered.live other ((coordinator.isLive_endSession lease other).mp live).1
  · intro other ended
    rw [nextLease_endSession]
    rcases (coordinator.hasEnded_endSession lease other).mp ended with old | ⟨rfl, live⟩
    · exact numbered.ended other old
    · exact numbered.live other live

end Coordinator

namespace Cluster

namespace Effect

variable {before after : Coordinator} {elector : Elector} {signal : Signal}

theorem numbered (effect : Effect before elector after signal) (numbered : before.Numbered) :
    after.Numbered := by
  cases effect with
  | opened _ created =>
      obtain ⟨_, rfl⟩ := Coordinator.createSession_ok created
      refine ⟨?_, ?_⟩
      · intro lease live
        have split : before.isLive lease = true ∨ lease = before.nextLease := by
          simpa [Coordinator.isLive] using live
        rcases split with old | rfl
        · exact Int.lt_trans (numbered.live lease old) (Int.lt_succ _)
        · exact Int.lt_succ _
      · intro lease ended
        exact Int.lt_trans (numbered.ended lease ended) (Int.lt_succ _)
  | refused created =>
      have kept : before.createSession.2.Numbered := by
        simp only [Coordinator.createSession] at created ⊢
        split at created
        · exact ⟨numbered.live, numbered.ended⟩
        · simp at created
      rwa [created] at kept
  | entered _ enlisted =>
      rw [Coordinator.enlist_ok enlisted]
      exact ⟨numbered.live, numbered.ended⟩
  | won => exact numbered
  | closed => exact numbered.endSession _
  | quiet => exact numbered

/-- No session ends but one that the elector is closing. -/
theorem ends (effect : Effect before elector after signal) {lease : Lease}
    (ended : after.hasEnded lease = true) :
    before.hasEnded lease = true ∨ elector.phase = .closing lease := by
  cases effect with
  | opened _ created =>
      obtain ⟨_, rfl⟩ := Coordinator.createSession_ok created
      exact .inl ended
  | refused created =>
      simp only [Coordinator.createSession] at created
      split at created
      · cases created
        exact .inl ended
      · simp at created
  | entered _ enlisted =>
      rw [Coordinator.enlist_ok enlisted] at ended
      exact .inl ended
  | won => exact .inl ended
  | @closed closing phase =>
      rcases (before.hasEnded_endSession closing lease).mp ended with old | ⟨rfl, _⟩
      · exact .inl old
      · exact .inr phase
  | quiet => exact .inl ended

end Effect

variable {cluster next acted : Cluster} {elector : Elector} {now : Instant} {move : Move}
  {signal : Signal} {events : List Event} {notices : List Notice} {lease : Lease} {replica : Nat}

/-- What the failures to come add to the moves that can follow. -/
def allowance (cluster : Cluster) : Nat :=
  20 * (cluster.coordinator.failing + cluster.faults.campaigns)

theorem potential_eq_sum (cluster : Cluster) :
    cluster.potential = (cluster.electors.map cluster.share).sum + cluster.allowance := rfl

theorem share_le (unended : ∀ lease, elector.phase.lease? = some lease →
      acted.coordinator.hasEnded lease = true → cluster.coordinator.hasEnded lease = true) :
    acted.share elector ≤ cluster.share elector := by
  have lost (lease : Lease) (held : elector.phase.lease? = some lease) :
      (if acted.coordinator.hasEnded lease then 10 else 0) ≤
        if cluster.coordinator.hasEnded lease then 10 else 0 := by
    by_cases ended : acted.coordinator.hasEnded lease = true
    · rw [if_pos ended, if_pos (unended lease held ended)]
    · rw [if_neg ended]
      exact Nat.zero_le _
  unfold share
  apply Nat.add_le_add_left
  cases phase : elector.phase <;>
    first | exact Nat.le_refl _ | exact lost _ (by rw [phase]; rfl)

theorem share_hear_pauseOver {wake : Instant} (rests : elector.wake? = some wake) :
    cluster.share (elector.hear now .pauseOver) < cluster.share elector := by
  cases phase : elector.phase <;> simp only [Elector.wake?, phase, reduceCtorEq] at rests <;>
    simp [share, Elector.hear, phase, distance]

theorem share_hear_sessionLost
    (held : elector.phase = .campaigning lease ∨ elector.phase = .waiting lease ∨
      ∃ term, elector.phase = .leading lease term)
    (ended : cluster.coordinator.hasEnded lease = true) :
    cluster.share (elector.hear now .sessionLost) < cluster.share elector := by
  rcases held with phase | phase | ⟨term, phase⟩ <;>
    simp [share, Elector.hear, Elector.stepDown, phase, distance, ended]

theorem share_hear_cancelSeen (chosen : cluster.choice now elector = some .heed) :
    cluster.share (elector.hear now .cancelSeen) < cluster.share elector := by
  cases phase : elector.phase <;> simp only [choice, phase] at chosen <;>
    simp only [share, Elector.hear, Elector.stop, Elector.stepDown, phase, distance] <;>
    first | omega | simp at chosen

/-- The move that an elector chooses costs it more than the failures to come make up for. -/
theorem Acted.share_lt (acts : Acted cluster elector move acted signal)
    (chosen : cluster.choice now elector = some move)
    (fresh : cluster.coordinator.hasEnded cluster.coordinator.nextLease = false) :
    acted.share (elector.hear now signal) + acted.allowance <
      cluster.share elector + cluster.allowance := by
  cases acts with
  | opened opening created =>
      obtain ⟨rfl, rfl⟩ := Coordinator.createSession_ok created
      have unended : cluster.coordinator.nextLease ∉ cluster.coordinator.ended := by
        simpa [Coordinator.hasEnded] using fresh
      simp [withCoordinator, share, allowance, Elector.hear, opening, distance,
        Coordinator.hasEnded, unended]
  | refused opening created =>
      simp only [Coordinator.createSession] at created
      split at created
      · rename_i failing left
        cases created
        simp only [withCoordinator, share, allowance, Elector.hear, opening, distance, left]
        omega
      · simp at created
  | rested rests => exact Nat.add_lt_add_right (share_hear_pauseOver rests) _
  | @entered lease _ campaigning enlisted =>
      have unended : lease ∉ cluster.coordinator.ended := by
        simpa [Coordinator.hasEnded] using Coordinator.enlist_unended enlisted
      rw [Coordinator.enlist_ok enlisted]
      simp [withCoordinator, share, allowance, Elector.hear, campaigning, distance,
        Coordinator.hasEnded, Coordinator.announce, unended]
  | rejected campaigning ended =>
      -- With a session that has ended an elector does not choose to campaign.
      simp only [choice, campaigning, ended, if_true] at chosen
      split at chosen <;> simp at chosen
  | foiled campaigning left =>
      simp only [share, allowance, Elector.hear, campaigning, distance, left]
      omega
  | won waiting => simp [share, Elector.hear, waiting, distance]
  | returned => exact absurd rfl (Assembly.choice_cases chosen).2.1
  | seated elected => simp [share, Elector.hear, elected, distance]
  | lost held ended => exact Nat.add_lt_add_right (share_hear_sessionLost held ended) _
  | heeded => exact Nat.add_lt_add_right (share_hear_cancelSeen chosen) _
  | @closed lease closing =>
      have kept : (cluster.coordinator.endSession lease).2.failing =
          cluster.coordinator.failing := by
        simp only [Coordinator.endSession]
        split <;> rfl
      simp [withCoordinator, share, allowance, Elector.hear, Elector.stop, closing, distance, kept]
  | unclosed closing =>
      simp [share, allowance, Elector.hear, Elector.stop, closing, distance]

end Cluster

/-- What settling relies on: sessions are numbered and held by one elector each, and each elector
has its turn. -/
structure Regular (cluster : Cluster) : Prop extends Sound cluster where
  numbered : cluster.coordinator.Numbered
  turns : ∀ replica < cluster.electors.length, replica ∈ cluster.turns

namespace Cluster

variable {cluster next : Cluster} {now : Instant} {move : Move} {events : List Event}
  {notices : List Notice} {replica : Nat}

theorem mem_turned {turns : List Nat} {elector : Elector} {other : Nat} (member : other ∈ turns) :
    other ∈ turned turns replica elector := by
  simp only [turned]
  split
  · by_cases same : other = replica <;> simp [same, member]
  · exact member

theorem perform?_turns (moved : cluster.perform? now replica move = some (next, events, notices)) :
    next.electors.length = cluster.electors.length ∧
      ∀ other ∈ cluster.turns, other ∈ next.turns := by
  obtain ⟨elector, acted, signal, _, _, rfl⟩ := perform?_acted moved
  exact ⟨List.length_set .., fun _ => mem_turned⟩

theorem perform?_of_act {elector : Elector} {acted : Cluster} {signal : Signal}
    {recorded : List Event} (found : cluster.elector? replica = some elector)
    (acting : cluster.act now elector move = some (acted, signal, recorded)) :
    ∃ events notices, cluster.perform? now replica move =
      some ({ acted with
        electors := cluster.electors.set replica (elector.hear now signal)
        turns := turned cluster.turns replica (elector.hear now signal) }, events, notices) := by
  have stood : cluster.electors[replica]? = some elector := found
  simp only [perform?, stood, acting, bind, Option.bind_some]
  exact ⟨_, _, rfl⟩

theorem nextMove_eq_some (chosen : cluster.nextMove now = some (replica, move)) :
    ∃ elector, cluster.elector? replica = some elector ∧
      cluster.choice now elector = some move := by
  obtain ⟨place, _, chosen⟩ := List.exists_of_findSome?_eq_some chosen
  simp only [bind, Option.bind_eq_some_iff, pure, Option.some.injEq] at chosen
  obtain ⟨elector, found, chosen, choice, same⟩ := chosen
  cases same
  exact ⟨elector, found, choice⟩

theorem nextMove_eq_none (turns : replica ∈ cluster.turns) {elector : Elector}
    (rests : cluster.nextMove now = none) (found : cluster.elector? replica = some elector) :
    cluster.choice now elector = none := by
  rw [nextMove, List.findSome?_eq_none_iff] at rests
  have unmoved := rests replica turns
  have stood : cluster.electors[replica]? = some elector := found
  rw [stood] at unmoved
  cases chosen : cluster.choice now elector with
  | none => rfl
  | some move => simp [chosen] at unmoved

end Cluster

namespace Regular

variable {cluster next : Cluster} {now : Instant} {move : Move} {events : List Event}
  {notices : List Notice} {replica : Nat}

theorem perform? (regular : Regular cluster)
    (moved : cluster.perform? now replica move = some (next, events, notices)) :
    Regular next := by
  obtain ⟨elector, signal, _, effect, _⟩ := Cluster.perform?_effect moved
  obtain ⟨length, turns⟩ := Cluster.perform?_turns moved
  refine ⟨(Cluster.advance_perform? moved).1.sound regular.toSound,
    effect.numbered regular.numbered, ?_⟩
  rw [length]
  exact fun other bound => turns other (regular.turns other bound)

/-- A move that is chosen can be made, and leaves less to do. -/
theorem nextMove (regular : Regular cluster)
    (chosen : cluster.nextMove now = some (replica, move)) :
    ∃ next events notices, cluster.perform? now replica move = some (next, events, notices) ∧
      Regular next ∧ next.potential < cluster.potential := by
  obtain ⟨elector, found, choice⟩ := Cluster.nextMove_eq_some chosen
  obtain ⟨⟨⟨acted, signal, recorded⟩, acting⟩, _⟩ := Assembly.choice_cases choice
  obtain ⟨events, notices, moved⟩ := Cluster.perform?_of_act found acting
  refine ⟨_, events, notices, moved, regular.perform? moved, ?_⟩
  have acts := Cluster.act_acted acting
  rw [Cluster.potential_eq_sum, Cluster.potential_eq_sum]
  change ((cluster.electors.set replica _).map acted.share).sum + acted.allowance < _
  refine sum_map_set_lt found ?_ (acts.share_lt choice regular.numbered.fresh)
  intro place other differ stood
  apply Cluster.share_le
  intro lease held ended
  rcases acts.effect.ends ended with old | closing
  · exact old
  · have holds : elector.phase.lease? = some lease := by rw [closing]; rfl
    exact absurd (regular.distinct place replica other elector lease stood found held holds) differ

end Regular

variable {cluster next : Cluster} {now : Instant}

theorem Regular.drain (regular : Regular cluster) {fuel : Nat} (enough : cluster.potential ≤ fuel)
    (journal : Journal) :
    Regular (Cluster.drain now fuel (cluster, journal)).1 ∧
      (Cluster.drain now fuel (cluster, journal)).1.nextMove now = none := by
  induction fuel generalizing cluster journal with
  | zero =>
      refine ⟨regular, ?_⟩
      rw [Option.eq_none_iff_forall_ne_some]
      rintro ⟨replica, move⟩ chosen
      obtain ⟨next, _, _, _, _, less⟩ := regular.nextMove chosen
      exact Nat.not_lt_zero _ (Nat.lt_of_lt_of_le less enough)
  | succ fuel ih =>
      simp only [Cluster.drain]
      cases chosen : cluster.nextMove now with
      | none => exact ⟨regular, chosen⟩
      | some choice =>
          obtain ⟨next, events, notices, moved, later, less⟩ := regular.nextMove chosen
          simp only [moved]
          exact ih later (Nat.le_of_lt_succ (Nat.lt_of_lt_of_le less enough)) _

theorem Regular.settle (regular : Regular cluster) (now : Instant) (journal : Journal) :
    Regular (cluster.settle now journal).1 ∧
      (cluster.settle now journal).1.nextMove now = none :=
  regular.drain (Nat.le_refl _) journal

/-- The end of a session is not taken apart into its stages. -/
def Happening.isWhole : Happening → Bool
  | .withdraw _ => false
  | .beginClose _ => false
  | .signalEnd _ => false
  | .announce => false
  | _ => true

theorem Regular.happen? (regular : Regular cluster) {happening : Happening}
    (whole : happening.isWhole = true) (happened : cluster.happen? happening = some next) :
    Regular next := by
  obtain ⟨_, advance, _⟩ := Cluster.happen?_advance happened
  have sound := advance.sound regular.toSound
  have numbered := regular.numbered
  have turns := regular.turns
  cases happening with
  | move now replica move =>
      obtain ⟨⟨reached, events, notices⟩, moved, rfl⟩ := Option.map_eq_some_iff.mp happened
      exact regular.perform? moved
  | start now replica =>
      simp only [Cluster.happen?, Cluster.start, Option.some.injEq] at happened
      split at happened
      · subst happened
        exact regular
      · subst happened
        exact ⟨sound, numbered, by simpa [Cluster.modifyElector] using turns⟩
  | cancel replica =>
      cases happened
      exact ⟨sound, numbered, by simpa [Cluster.cancel, Cluster.modifyElector] using turns⟩
  | expire lease =>
      cases happened
      exact ⟨sound, numbered.endSession lease, turns⟩
  | failSessions count =>
      cases happened
      exact ⟨sound, ⟨numbered.live, numbered.ended⟩, turns⟩
  | setFaults faults =>
      cases happened
      exact ⟨sound, numbered, turns⟩
  | _ => cases whole

theorem regular_ofElectors {electors : List Elector} (new : ∀ elector ∈ electors, elector.IsNew) :
    Regular (Cluster.ofElectors electors) := by
  refine ⟨sound_ofElectors new, ⟨?_, ?_⟩, ?_⟩
  · simp [Cluster.ofElectors, Coordinator.isLive]
  · simp [Cluster.ofElectors, Coordinator.hasEnded]
  · exact fun replica bound => List.mem_range.mpr bound

/-- Whatever happened to a cluster of new electors, settling it leaves no elector with a move that
it can make without waiting. -/
theorem settle_rests {electors : List Elector} (new : ∀ elector ∈ electors, elector.IsNew)
    {history : List Happening}
    (followed : (Cluster.ofElectors electors).follow? history = some cluster)
    (whole : ∀ happening ∈ history, happening.isWhole = true) (now : Instant) (journal : Journal) :
    ∀ replica elector, (cluster.settle now journal).1.elector? replica = some elector →
      (cluster.settle now journal).1.choice now elector = none := by
  have regular : Regular cluster := Cluster.follow?_induction
    (fun happening member _ _ happened regular => regular.happen? (whole happening member) happened)
    followed (regular_ofElectors new)
  obtain ⟨settled, rests⟩ := regular.settle now journal
  intro replica elector found
  have bound := (List.getElem?_eq_some_iff.mp found).1
  exact Cluster.nextMove_eq_none (settled.turns replica bound) rests found

end Election

end Rota
