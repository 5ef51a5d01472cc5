import Rota.Proofs.Election.History
import Rota.Proofs.Election.Succession
import Rota.Proofs.Election.Tenure

/-!
Mutual exclusion of leadership. A session that has won an election stays at the front of its
queue for as long as it is live, no two electors hold the same session, and an elector steps
down before it lets its session go.
-/

namespace Rota.Election

structure Turn (before after : Coordinator) (elector next : Elector) : Prop where
  key : next.key = elector.key
  standing : elector.HasStanding → next.HasStanding
  lease : ∀ lease, next.phase.lease? = some lease →
    elector.phase.lease? = some lease ∨ lease = before.nextLease ∧ lease < after.nextLease
  tenure : ∀ lease, next.phase.tenure? = some lease →
    elector.phase.tenure? = some lease ∨ after.isLive lease = true
  seat : ∀ lease, next.phase.seat? = some lease →
    elector.phase.seat? = some lease ∨ after.isFront elector.key lease = true

theorem Turn.refl (before after : Coordinator) (elector : Elector) :
    Turn before after elector elector :=
  ⟨rfl, id, fun _ => .inl, fun _ => .inl, fun _ => .inl⟩

namespace Cluster.Effect

variable {before after : Coordinator} {elector : Elector} {signal : Signal}

theorem succeeds (effect : Effect before elector after signal) : after.Succeeds before := by
  cases effect with
  | opened _ created =>
      have later := before.createSession_succeeds
      rwa [created] at later
  | refused created =>
      have later := before.createSession_succeeds
      rwa [created] at later
  | entered _ enlisted =>
      exact (Coordinator.announce_succeeds _).trans (Coordinator.enlist_succeeds enlisted)
  | won => exact .refl before
  | closed => exact before.endSession_succeeds _
  | quiet => exact .refl before

theorem opened_lease {lease : Lease}
    (effect : Effect before elector after (.sessionOpened lease)) :
    lease = before.nextLease ∧ lease < after.nextLease ∧ after.isLive lease = true := by
  cases effect with
  | opened _ created =>
      obtain ⟨rfl, rfl⟩ := Coordinator.createSession_ok created
      exact ⟨rfl, Int.lt_succ _, by simp [Coordinator.isLive]⟩
  | quiet unopened => exact absurd rfl (unopened lease)

theorem turn (effect : Effect before elector after signal) (now : Instant) :
    Turn before after elector (elector.hear now signal) := by
  refine ⟨elector.hear_key now signal, elector.hear_hasStanding now signal, ?_, ?_, ?_⟩
  · intro lease held
    rcases elector.hear_lease? now signal held with kept | ⟨_, rfl⟩
    · exact .inl kept
    · exact .inr ⟨effect.opened_lease.1, effect.opened_lease.2.1⟩
  · intro lease held
    rcases elector.hear_tenure? now signal held with kept | ⟨_, rfl⟩
    · exact .inl kept
    · exact .inr effect.opened_lease.2.2
  · intro lease held
    rcases elector.hear_seat? now signal held with kept | ⟨waiting, rfl⟩
    · exact .inl kept
    · cases effect with
      | won waits front =>
          obtain rfl : lease = _ := by simpa [waits] using waiting.symm
          exact .inr front
      | quiet _ unwon => exact absurd rfl unwon

theorem spares (effect : Effect before elector after signal) {lease : Lease}
    (live : before.isLive lease = true) :
    after.isLive lease = true ∨ elector.phase = .closing lease := by
  cases effect with
  | opened _ created =>
      have kept := Coordinator.isLive_createSession live
      rw [created] at kept
      exact .inl kept
  | refused created =>
      have kept := Coordinator.isLive_createSession live
      rw [created] at kept
      exact .inl kept
  | entered _ enlisted =>
      rw [Coordinator.enlist_ok enlisted]
      exact .inl live
  | won => exact .inl live
  | @closed ending closing =>
      by_cases same : lease = ending
      · exact .inr (same ▸ closing)
      · exact .inl ((before.isLive_endSession ending lease).mpr ⟨live, same⟩)
  | quiet => exact .inl live

end Cluster.Effect

/-- One step of a cluster: the service goes on, and at most one elector changes. -/
structure Advance (cluster next : Cluster) (replica : Nat) : Prop where
  service : next.coordinator.Succeeds cluster.coordinator
  others : ∀ other, other ≠ replica → next.elector? other = cluster.elector? other
  mover : ∀ moved, next.elector? replica = some moved → ∃ elector,
    cluster.elector? replica = some elector ∧
      Turn cluster.coordinator next.coordinator elector moved

/-- A step that ends no session but one that the changing elector is closing. -/
def Spares (cluster next : Cluster) (replica : Nat) : Prop :=
  ∀ lease, cluster.coordinator.isLive lease = true → next.coordinator.isLive lease = true ∨
    ∃ elector, cluster.elector? replica = some elector ∧ elector.phase = .closing lease

namespace Cluster

theorem advance_of_electors {cluster next : Cluster} (replica : Nat)
    (later : next.coordinator.Succeeds cluster.coordinator)
    (electors : next.electors = cluster.electors) : Advance cluster next replica := by
  have same (place : Nat) : next.elector? place = cluster.elector? place := by
    rw [elector?, elector?, electors]
  refine ⟨later, fun other _ => same other, ?_⟩
  intro moved found
  exact ⟨moved, same replica ▸ found, .refl _ _ moved⟩

theorem advance_modifyElector (cluster : Cluster) (replica : Nat) (change : Elector → Elector)
    (turn : ∀ elector, Turn cluster.coordinator cluster.coordinator elector (change elector)) :
    Advance cluster (cluster.modifyElector replica change) replica := by
  refine ⟨.refl _, ?_, ?_⟩
  · intro other different
    rw [elector?_modifyElector, if_neg different]
  · intro moved found
    rw [elector?_modifyElector, if_pos rfl, Option.map_eq_some_iff] at found
    obtain ⟨elector, found, rfl⟩ := found
    exact ⟨elector, found, turn elector⟩

theorem advance_perform? {cluster next : Cluster} {now : Instant} {replica : Nat} {move : Move}
    {events : List Event} {notices : List Notice}
    (moved : cluster.perform? now replica move = some (next, events, notices)) :
    Advance cluster next replica ∧ Spares cluster next replica := by
  obtain ⟨elector, signal, found, effect, electors⟩ := perform?_effect moved
  refine ⟨⟨effect.succeeds, ?_, ?_⟩, ?_⟩
  · intro other different
    rw [electors, if_neg different]
  · intro moved changed
    rw [electors, if_pos rfl, Option.some.injEq] at changed
    subst changed
    exact ⟨elector, found, effect.turn now⟩
  · intro lease live
    rcases effect.spares live with kept | closing
    · exact .inl kept
    · exact .inr ⟨elector, found, closing⟩

theorem withdraw_spares {cluster : Cluster} {replica : Nat} {elector : Elector} {lease : Lease}
    (found : cluster.elector? replica = some elector) (closing : elector.phase = .closing lease) :
    Spares cluster (cluster.withCoordinator (cluster.coordinator.withdraw lease)) replica := by
  intro other live
  by_cases same : other = lease
  · exact .inr ⟨elector, found, same ▸ closing⟩
  · exact .inl ((Coordinator.isLive_withdraw _ lease other).mpr ⟨live, same⟩)

/-- All that can happen to a cluster is a step of one of its electors or of the service, and
none but an expiry ends a session that its elector is not closing. -/
theorem happen?_advance {cluster next : Cluster} {happening : Happening}
    (happened : cluster.happen? happening = some next) :
    ∃ replica, Advance cluster next replica ∧
      (happening.isExpiry = false → Spares cluster next replica) := by
  cases happening with
  | move now replica move =>
      simp only [happen?, Option.map_eq_some_iff] at happened
      obtain ⟨⟨moved, events, notices⟩, performed, rfl⟩ := happened
      obtain ⟨advanced, spared⟩ := advance_perform? performed
      exact ⟨replica, advanced, fun _ => spared⟩
  | start now replica =>
      simp only [happen?, Option.some.injEq] at happened
      subst happened
      refine ⟨replica, ?_, fun _ lease live => ?_⟩
      · simp only [start]
        split
        · exact advance_of_electors replica (.refl _) rfl
        · apply advance_modifyElector
          intro elector
          exact Effect.turn (.quiet (by simp) (by simp)) now
      · left
        simp only [start]
        split <;> exact live
  | cancel replica =>
      simp only [happen?, Option.some.injEq] at happened
      subst happened
      refine ⟨replica, ?_, fun _ _ live => .inl live⟩
      apply advance_modifyElector
      intro elector
      exact ⟨rfl, id, fun _ => .inl, fun _ => .inl, fun _ => .inl⟩
  | expire lease =>
      simp only [happen?, Option.some.injEq] at happened
      subst happened
      exact ⟨0, advance_of_electors 0 (Coordinator.endSession_succeeds _ lease) rfl,
        by simp [Happening.isExpiry]⟩
  | withdraw lease =>
      simp only [happen?, Option.some.injEq] at happened
      subst happened
      exact ⟨0, advance_of_electors 0 (Coordinator.withdraw_succeeds _ lease) rfl,
        by simp [Happening.isExpiry]⟩
  | beginClose replica =>
      simp only [happen?] at happened
      split at happened
      · rename_i lease closing
        simp only [Option.some.injEq] at happened
        subst happened
        obtain ⟨elector, found, closing⟩ := Option.map_eq_some_iff.mp closing
        exact ⟨replica, advance_of_electors replica (Coordinator.withdraw_succeeds _ lease) rfl,
          fun _ => withdraw_spares found closing⟩
      · simp at happened
  | signalEnd lease =>
      simp only [happen?] at happened
      split at happened
      · simp at happened
      · simp only [Option.some.injEq] at happened
        subst happened
        exact ⟨0, advance_of_electors 0 (Coordinator.signalEnd_succeeds _ lease) rfl,
          fun _ _ live => .inl live⟩
  | announce =>
      simp only [happen?, Option.some.injEq] at happened
      subst happened
      exact ⟨0, advance_of_electors 0 (Coordinator.announce_succeeds _) rfl,
        fun _ _ live => .inl live⟩
  | failSessions count =>
      simp only [happen?, Option.some.injEq] at happened
      subst happened
      exact ⟨0, advance_of_electors 0 (Coordinator.failNext_succeeds _ count) rfl,
        fun _ _ live => .inl live⟩
  | setFaults faults =>
      simp only [happen?, Option.some.injEq] at happened
      subst happened
      exact ⟨0, advance_of_electors 0 (.refl _) rfl, fun _ _ live => .inl live⟩

end Cluster

/-- What holds of the electors of a cluster at every moment. -/
structure Sound (cluster : Cluster) : Prop where
  standing : ∀ replica elector, cluster.elector? replica = some elector → elector.HasStanding
  issued : ∀ replica elector lease, cluster.elector? replica = some elector →
    elector.phase.lease? = some lease → lease < cluster.coordinator.nextLease
  distinct : ∀ first second elector other lease, cluster.elector? first = some elector →
    cluster.elector? second = some other → elector.phase.lease? = some lease →
      other.phase.lease? = some lease → first = second
  front : ∀ replica elector lease, cluster.elector? replica = some elector →
    elector.phase.seat? = some lease → cluster.coordinator.isLive lease = true →
      cluster.coordinator.isFront elector.key lease = true

/-- No elector holds a session that has ended, but for one that it is closing. -/
def Tenured (cluster : Cluster) : Prop :=
  ∀ replica elector lease, cluster.elector? replica = some elector →
    elector.phase.tenure? = some lease → cluster.coordinator.isLive lease = true

theorem Phase.lease?_of_seat? {phase : Phase} {lease : Lease} (held : phase.seat? = some lease) :
    phase.lease? = some lease := by
  cases phase <;> simp_all [seat?, lease?]

namespace Advance

variable {cluster next : Cluster} {replica : Nat}

theorem origin (step : Advance cluster next replica) {place : Nat} {moved : Elector}
    (found : next.elector? place = some moved) :
    ∃ elector, cluster.elector? place = some elector ∧
      Turn cluster.coordinator next.coordinator elector moved := by
  by_cases same : place = replica
  · subst same
    exact step.mover moved found
  · exact ⟨moved, step.others place same ▸ found, .refl _ _ moved⟩

theorem lease_origin (step : Advance cluster next replica) {place : Nat} {moved : Elector}
    {lease : Lease} (found : next.elector? place = some moved)
    (held : moved.phase.lease? = some lease) :
    (∃ elector, cluster.elector? place = some elector ∧ elector.phase.lease? = some lease) ∨
      place = replica ∧ lease = cluster.coordinator.nextLease ∧
        lease < next.coordinator.nextLease := by
  by_cases same : place = replica
  · subst same
    obtain ⟨elector, stood, turn⟩ := step.mover moved found
    rcases turn.lease lease held with kept | fresh
    · exact .inl ⟨elector, stood, kept⟩
    · exact .inr ⟨rfl, fresh⟩
  · exact .inl ⟨moved, step.others place same ▸ found, held⟩

theorem sound (step : Advance cluster next replica) (before : Sound cluster) : Sound next := by
  refine ⟨?_, ?_, ?_, ?_⟩
  · intro place moved found
    obtain ⟨elector, stood, turn⟩ := step.origin found
    exact turn.standing (before.standing place elector stood)
  · intro place moved lease found held
    rcases step.lease_origin found held with ⟨elector, stood, kept⟩ | ⟨_, _, fresh⟩
    · exact Int.lt_of_lt_of_le (before.issued place elector lease stood kept) step.service.issued
    · exact fresh
  · intro first second moved other lease firstFound secondFound firstHeld secondHeld
    rcases step.lease_origin firstFound firstHeld with
      ⟨elector, stood, kept⟩ | ⟨firstMoved, firstFresh, _⟩ <;>
    rcases step.lease_origin secondFound secondHeld with
      ⟨rival, rivalStood, rivalKept⟩ | ⟨secondMoved, secondFresh, _⟩
    · exact before.distinct first second elector rival lease stood rivalStood kept rivalKept
    · exact absurd secondFresh (Int.ne_of_lt (before.issued first elector lease stood kept))
    · exact absurd firstFresh (Int.ne_of_lt (before.issued second rival lease rivalStood rivalKept))
    · rw [firstMoved, secondMoved]
  · intro place moved lease found held live
    obtain ⟨elector, stood, turn⟩ := step.origin found
    rw [turn.key]
    rcases turn.seat lease held with kept | won
    · have old := before.issued place elector lease stood (Phase.lease?_of_seat? kept)
      apply step.service.front elector.key lease old live
      exact before.front place elector lease stood kept (step.service.live lease old live)
    · exact won

theorem tenured (step : Advance cluster next replica) (spares : Spares cluster next replica)
    (sound : Sound cluster) (before : Tenured cluster) : Tenured next := by
  intro place moved lease found held
  obtain ⟨elector, stood, turn⟩ := step.origin found
  rcases turn.tenure lease held with kept | live
  · rcases spares lease (before place elector lease stood kept) with
      live | ⟨closer, closes, closing⟩
    · exact live
    · have same : place = replica := by
        apply sound.distinct place replica elector closer lease stood closes
        · exact Phase.lease?_of_tenure? kept
        · simp [closing, Phase.lease?]
      subst same
      obtain rfl : elector = closer := Option.some.inj (stood.symm.trans closes)
      simp [closing, Phase.tenure?] at kept
  · exact live

end Advance

variable {electors : List Elector}

theorem sound_ofElectors (new : ∀ elector ∈ electors, elector.IsNew) :
    Sound (Cluster.ofElectors electors) := by
  have idle (replica : Nat) (elector : Elector)
      (found : (Cluster.ofElectors electors).elector? replica = some elector) : elector.IsNew :=
    new elector (List.mem_of_getElem? found)
  refine ⟨?_, ?_, ?_, ?_⟩
  · intro replica elector found
    exact (idle replica elector found).hasStanding
  · intro replica elector lease found held
    simp [(idle replica elector found).1, Phase.lease?] at held
  · intro first second elector other lease found _ held
    simp [(idle first elector found).1, Phase.lease?] at held
  · intro replica elector lease found held
    simp [(idle replica elector found).1, Phase.seat?] at held

theorem tenured_ofElectors (new : ∀ elector ∈ electors, elector.IsNew) :
    Tenured (Cluster.ofElectors electors) := by
  intro replica elector lease found held
  simp [(new elector (List.mem_of_getElem? found)).1, Phase.tenure?] at held

theorem sound_of_follow? (new : ∀ elector ∈ electors, elector.IsNew) {history : List Happening}
    {cluster : Cluster} (followed : (Cluster.ofElectors electors).follow? history = some cluster) :
    Sound cluster := by
  apply Cluster.follow?_induction _ followed (sound_ofElectors new)
  intro happening _ before after happened sound
  obtain ⟨replica, step, _⟩ := Cluster.happen?_advance happened
  exact step.sound sound

theorem tenured_of_follow? (new : ∀ elector ∈ electors, elector.IsNew) {history : List Happening}
    {cluster : Cluster} (followed : (Cluster.ofElectors electors).follow? history = some cluster)
    (calm : ∀ happening ∈ history, happening.isExpiry = false) : Tenured cluster := by
  have both : Sound cluster ∧ Tenured cluster := by
    apply Cluster.follow?_induction _ followed ⟨sound_ofElectors new, tenured_ofElectors new⟩
    intro happening member before after happened invariant
    obtain ⟨replica, step, spares⟩ := Cluster.happen?_advance happened
    exact ⟨step.sound invariant.1,
      step.tenured (spares (calm happening member)) invariant.1 invariant.2⟩
  exact both.2

def Cluster.Leads (cluster : Cluster) (replica : Nat) (key : String) (lease : Lease) : Prop :=
  ∃ elector term, cluster.elector? replica = some elector ∧ elector.key = key ∧
    elector.isLeader = true ∧ elector.phase = .leading lease term

theorem Sound.leads {cluster : Cluster} (sound : Sound cluster) {replica : Nat} {elector : Elector}
    (found : cluster.elector? replica = some elector) (leader : elector.isLeader = true) :
    ∃ lease, cluster.Leads replica elector.key lease := by
  obtain ⟨lease, term, leading⟩ := (sound.standing replica elector found).leading leader
  exact ⟨lease, elector, term, found, rfl, leader, leading⟩

theorem Sound.leads_front {cluster : Cluster} (sound : Sound cluster) {replica : Nat}
    {key : String} {lease : Lease} (leads : cluster.Leads replica key lease)
    (live : cluster.coordinator.isLive lease = true) :
    cluster.coordinator.leaderLease? key = some lease := by
  obtain ⟨elector, term, found, rfl, _, leading⟩ := leads
  rw [← Coordinator.isFront_iff]
  exact sound.front replica elector lease found (by simp [leading, Phase.seat?]) live

theorem Sound.leads_unique {cluster : Cluster} (sound : Sound cluster) {first second : Nat}
    {key : String} {lease other : Lease} (leads : cluster.Leads first key lease)
    (rivals : cluster.Leads second key other) (live : cluster.coordinator.isLive lease = true)
    (otherLive : cluster.coordinator.isLive other = true) : first = second := by
  have front := sound.leads_front leads live
  rw [sound.leads_front rivals otherLive, Option.some.injEq] at front
  subst front
  obtain ⟨elector, _, found, _, _, leading⟩ := leads
  obtain ⟨rival, _, rivalFound, _, _, rivalLeading⟩ := rivals
  apply sound.distinct first second elector rival other found rivalFound
  · simp [leading, Phase.lease?]
  · simp [rivalLeading, Phase.lease?]

theorem Tenured.leads_live {cluster : Cluster} (tenured : Tenured cluster) {replica : Nat}
    {key : String} {lease : Lease} (leads : cluster.Leads replica key lease) :
    cluster.coordinator.isLive lease = true := by
  obtain ⟨elector, term, found, _, _, leading⟩ := leads
  exact tenured replica elector lease found (by simp [leading, Phase.tenure?])

/-- Whatever happened to a cluster of new electors, whoever leads with a live session is at the
front of its queue, so that no two do, and none but expiries let two lead at all. -/
theorem leadership_exclusive (new : ∀ elector ∈ electors, elector.IsNew)
    {history : List Happening} {cluster : Cluster}
    (followed : (Cluster.ofElectors electors).follow? history = some cluster) :
    (∀ replica elector, cluster.elector? replica = some elector → elector.isLeader = true →
      ∃ lease, cluster.Leads replica elector.key lease ∧
        (cluster.coordinator.isLive lease = true →
          cluster.coordinator.leaderLease? elector.key = some lease)) ∧
    (∀ key first second lease other, cluster.Leads first key lease →
      cluster.Leads second key other → cluster.coordinator.isLive lease = true →
        cluster.coordinator.isLive other = true → first = second) ∧
    ((∀ happening ∈ history, happening.isExpiry = false) →
      ∀ first second elector other, cluster.elector? first = some elector →
        cluster.elector? second = some other → elector.key = other.key →
          elector.isLeader = true → other.isLeader = true → first = second) := by
  have sound := sound_of_follow? new followed
  refine ⟨?_, ?_, ?_⟩
  · intro replica elector found leader
    obtain ⟨lease, leads⟩ := sound.leads found leader
    exact ⟨lease, leads, sound.leads_front leads⟩
  · intro key first second lease other leads rivals live otherLive
    exact sound.leads_unique leads rivals live otherLive
  · intro calm first second elector other found otherFound sameKey leader otherLeader
    have tenured := tenured_of_follow? new followed calm
    obtain ⟨lease, leads⟩ := sound.leads found leader
    obtain ⟨otherLease, rivals⟩ := sound.leads otherFound otherLeader
    rw [← sameKey] at rivals
    exact sound.leads_unique leads rivals (tenured.leads_live leads) (tenured.leads_live rivals)

def rivals : List Elector := [{ candidate := "a" }, { candidate := "b" }]

/-- The first of two electors is told to stop while it leads. It has withdrawn its session, but
not signalled its end, when the second begins to lead. -/
def handover : List Happening :=
  [.start 0 0, .start 0 1, .move 0 0 .open, .move 0 0 .enter, .move 0 1 .open, .move 0 1 .enter,
    .move 0 0 .win, .move 0 0 .seat, .cancel 0, .move 0 0 .heed, .beginClose 0, .move 0 1 .win,
    .move 0 1 .seat]

theorem leadership_exclusive_handover :
    (∀ elector ∈ rivals, elector.IsNew) ∧
      ∃ cluster second, (Cluster.ofElectors rivals).follow? handover = some cluster ∧
        cluster.elector? 1 = some second ∧ second.isLeader = true ∧
          ∀ replica elector, cluster.elector? replica = some elector → elector.isLeader = true →
            elector.key = second.key → replica = 1 := by
  have new : ∀ elector ∈ rivals, elector.IsNew := by simp [rivals, Elector.IsNew]
  have leading : (((Cluster.ofElectors rivals).follow? handover).bind (·.elector? 1)).map
      Elector.isLeader = some true := by decide
  simp only [Option.map_eq_some_iff, Option.bind_eq_some_iff] at leading
  obtain ⟨second, ⟨cluster, followed, found⟩, leader⟩ := leading
  refine ⟨new, cluster, second, followed, found, leader, ?_⟩
  intro replica elector rivalFound rivalLeader sameKey
  have exclusive := (leadership_exclusive new followed).2.2 (by decide)
  exact exclusive replica 1 elector second rivalFound found sameKey rivalLeader leader

/-- An expiry between the look at the front and the first act as leader leaves two at once. -/
example : (((Cluster.ofElectors rivals).follow? [.start 0 0, .start 0 1, .move 0 0 .open,
    .move 0 0 .enter, .move 0 1 .open, .move 0 1 .enter, .move 0 0 .win, .expire 1,
    .move 0 0 .seat, .move 0 1 .win, .move 0 1 .seat]).map fun cluster =>
      (cluster.isLeader 0, cluster.isLeader 1)) = some (true, true) := by
  decide

end Rota.Election
