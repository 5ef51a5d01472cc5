import Rota.Proofs.Election.Candidacy
import Rota.Proofs.Election.Exclusion

/-!
Clusters in which each call of the service is one step. Every candidate then belongs to a live
session that its elector holds, every elector that waits with a live session has its candidate,
and whatever changes a queue is announced.
-/

namespace Rota.Election

namespace Coordinator

/-- No end of a session is under way, and none but live sessions have candidates. -/
structure Tidy (coordinator : Coordinator) : Prop where
  sound : Traffic.Sound { coordinator }
  live : ∀ candidate ∈ coordinator.candidates, coordinator.isLive candidate.lease = true

/-- A change of the candidates has been announced. -/
structure Announces (before after : Coordinator) : Prop where
  later : before.version ≤ after.version
  same : after.version = before.version → after.candidates = before.candidates

/-- What calls do to the service. -/
inductive Served (before : Coordinator) : Coordinator → Prop
  | kept : Served before before
  | created : Served before before.createSession.2
  | failing (count : Nat) : Served before (before.failNext count)
  | entered {key lease value entered} : before.Issued lease →
      before.enlist key lease value = .ok entered → Served before entered.announce
  | ended (lease : Lease) : Served before (before.endSession lease).2

variable {coordinator before after : Coordinator}

theorem start_tidy : Tidy {} := ⟨Traffic.start_sound, by simp⟩

theorem Tidy.hasEnded_iff (tidy : coordinator.Tidy) {lease : Lease}
    (issued : coordinator.Issued lease) :
    coordinator.hasEnded lease = false ↔ coordinator.isLive lease = true := by
  constructor
  · intro unended
    rcases tidy.sound.whole lease issued with live | ending | ended
    · exact live
    · cases ending
    · exact absurd (unended.symm.trans ended) (by simp)
  · exact fun live => (tidy.sound.live lease live).2

theorem Announces.refl (coordinator : Coordinator) : coordinator.Announces coordinator :=
  ⟨Nat.le_refl _, fun _ => rfl⟩

theorem Tidy.created (tidy : coordinator.Tidy) : coordinator.createSession.2.Tidy := by
  refine ⟨tidy.sound.created, ?_⟩
  intro candidate member
  apply isLive_createSession
  apply tidy.live
  simp only [createSession] at member
  split at member <;> exact member

theorem created_announces : coordinator.Announces coordinator.createSession.2 := by
  simp only [createSession]
  split <;> exact ⟨Nat.le_refl _, fun _ => rfl⟩

theorem Tidy.failing (tidy : coordinator.Tidy) (count : Nat) :
    (coordinator.failNext count).Tidy :=
  ⟨tidy.sound.of_coordinator rfl rfl rfl rfl tidy.sound.entered tidy.sound.calls, tidy.live⟩

theorem enlist_unended {key value : String} {lease : Lease}
    (entered : coordinator.enlist key lease value = .ok after) :
    coordinator.hasEnded lease = false := by
  simp only [enlist] at entered
  split at entered
  · simp at entered
  · rename_i unended
    exact Bool.eq_false_iff.mpr unended

theorem Tidy.entered (tidy : coordinator.Tidy) {key value : String} {lease : Lease}
    (issued : coordinator.Issued lease)
    (entered : coordinator.enlist key lease value = .ok after) : after.announce.Tidy := by
  have live := (tidy.hasEnded_iff issued).mp (enlist_unended entered)
  rw [enlist_ok entered]
  have candidates {candidate : Candidate}
      (member : candidate ∈ enlisted { key, lease, value } coordinator.candidates) :
      coordinator.isLive candidate.lease = true := by
    rcases mem_enlisted member with rfl | old
    · exact live
    · exact tidy.live candidate old
  refine ⟨tidy.sound.of_coordinator rfl rfl rfl rfl ?_ tidy.sound.calls, ?_⟩
  · intro candidate member
    exact (tidy.sound.live candidate.lease (candidates member)).1
  · exact fun candidate member => candidates member

theorem mem_of_mem_endSession (coordinator : Coordinator) (lease : Lease) {candidate : Candidate}
    (member : candidate ∈ (coordinator.endSession lease).2.candidates) :
    candidate ∈ coordinator.candidates := by
  simp only [endSession] at member
  split at member <;> exact (List.mem_filter.mp member).1

theorem Tidy.ended (tidy : coordinator.Tidy) (lease : Lease) :
    (coordinator.endSession lease).2.Tidy := by
  have withdrawn := tidy.sound.withdrawn lease
  refine ⟨?_, ?_⟩
  · cases live : coordinator.isLive lease with
    | false =>
        simp only [live, Bool.false_eq_true, if_false] at withdrawn
        simp only [endSession, live, Bool.false_eq_true, if_false]
        exact withdrawn
    | true =>
        simp only [live, if_true] at withdrawn
        have signalled := withdrawn.signalled List.mem_cons_self
        simp only [endSession, live, if_true]
        exact signalled.of_coordinator rfl rfl rfl (by simp) signalled.entered signalled.calls
  · intro candidate member
    have kept : candidate ∈ (coordinator.withdraw lease).candidates := by
      simp only [endSession] at member
      split at member <;> exact member
    obtain ⟨old, differ⟩ := List.mem_filter.mp kept
    exact (isLive_endSession coordinator lease candidate.lease).mpr
      ⟨tidy.live candidate old, by simpa using differ⟩

theorem Tidy.ended_announces (tidy : coordinator.Tidy) (lease : Lease) :
    coordinator.Announces (coordinator.endSession lease).2 := by
  cases live : coordinator.isLive lease with
  | true =>
      simp only [endSession, live, if_true]
      refine ⟨Nat.le_succ _, ?_⟩
      intro same
      simp [announce, signalEnd, withdraw] at same
  | false =>
      simp only [endSession, live, Bool.false_eq_true, if_false]
      refine ⟨Nat.le_refl _, fun _ => ?_⟩
      apply List.filter_eq_self.mpr
      intro candidate member
      have alive := tidy.live candidate member
      rw [bne_iff_ne]
      rintro rfl
      simp [live] at alive

theorem Served.tidy (served : before.Served after) (tidy : before.Tidy) : after.Tidy := by
  cases served with
  | kept => exact tidy
  | created => exact tidy.created
  | failing count => exact tidy.failing count
  | entered issued entered => exact tidy.entered issued entered
  | ended lease => exact tidy.ended lease

theorem Served.announces (served : before.Served after) (tidy : before.Tidy) :
    before.Announces after := by
  cases served with
  | kept => exact .refl before
  | created => exact created_announces
  | failing => exact ⟨Nat.le_refl _, fun _ => rfl⟩
  | entered _ entered =>
      rw [enlist_ok entered]
      refine ⟨Nat.le_succ _, ?_⟩
      intro same
      simp [announce] at same
  | ended lease => exact tidy.ended_announces lease

theorem Served.succeeds (served : before.Served after) : after.Succeeds before := by
  cases served with
  | kept => exact .refl before
  | created => exact before.createSession_succeeds
  | failing count => exact before.failNext_succeeds count
  | entered _ entered => exact (announce_succeeds _).trans (enlist_succeeds entered)
  | ended lease => exact before.endSession_succeeds lease

/-- Nobody leaves an election without the end of the session. -/
theorem Served.enters (served : before.Served after) {key : String} {lease : Lease}
    (enters : before.Enters key lease) (live : after.isLive lease = true) :
    after.Enters key lease := by
  cases served with
  | kept => exact enters
  | created =>
      simp only [createSession]
      split <;> exact enters
  | failing => exact enters
  | entered _ entered =>
      rw [enlist_ok entered]
      exact enters_enlisted.mpr (.inl enters)
  | ended ending =>
      have differ := ((before.isLive_endSession ending lease).mp live).2
      have kept := enters_withdraw.mpr ⟨enters, differ⟩
      simp only [endSession]
      split <;> exact kept

end Coordinator

/-- What an elector does when the calls of the service are not made to fail: to the service, and
as a signal that it hears. -/
inductive Deed (coordinator : Coordinator) (elector : Elector) : Coordinator → Signal → Prop
  | opened {lease next} : elector.phase = .opening →
      coordinator.createSession = (.ok lease, next) →
      Deed coordinator elector next (.sessionOpened lease)
  | refused {error next} : elector.phase = .opening →
      coordinator.createSession = (.error error, next) →
      Deed coordinator elector next (.sessionRefused error)
  | rested {wake} : elector.wake? = some wake → Deed coordinator elector coordinator .pauseOver
  | entered {lease next} : elector.phase = .campaigning lease →
      coordinator.enlist elector.key lease elector.candidate = .ok next →
      Deed coordinator elector next.announce .entered
  | rejected {lease error} : elector.phase.lease? = some lease →
      coordinator.hasEnded lease = true →
      Deed coordinator elector coordinator (.campaignRefused error)
  | won {lease} : elector.phase = .waiting lease → coordinator.hasEnded lease = false →
      coordinator.isFront elector.key lease = true → Deed coordinator elector coordinator .won
  | seated {lease} : elector.phase = .elected lease → Deed coordinator elector coordinator .seated
  | lost {lease} : elector.phase.lease? = some lease → coordinator.hasEnded lease = true →
      Deed coordinator elector coordinator .sessionLost
  | heeded : elector.cancelled = true → Deed coordinator elector coordinator .cancelSeen
  | closed {lease} : elector.phase = .closing lease →
      Deed coordinator elector (coordinator.endSession lease).2 (.sessionClosed none)

namespace Cluster

variable {cluster acted : Cluster} {elector : Elector} {signal : Signal} {events : List Event}

theorem Acted.deed {move : Move} (acts : Acted cluster elector move acted signal)
    (flawless : cluster.faults = {}) : acted.faults = {} ∧
      Deed cluster.coordinator elector acted.coordinator signal := by
  cases acts with
  | opened opening created => exact ⟨flawless, .opened opening created⟩
  | refused opening created => exact ⟨flawless, .refused opening created⟩
  | rested resting => exact ⟨flawless, .rested resting⟩
  | entered campaigning enlisted => exact ⟨flawless, .entered campaigning enlisted⟩
  | rejected campaigning ended =>
      exact ⟨flawless, .rejected (by rw [campaigning]; rfl) ended⟩
  | foiled _ left => simp [flawless] at left
  | won waiting unended front => exact ⟨flawless, .won waiting unended front⟩
  | returned waiting ended => exact ⟨flawless, .rejected (by rw [waiting]; rfl) ended⟩
  | seated elected => exact ⟨flawless, .seated elected⟩
  | lost held ended =>
      refine ⟨flawless, .lost ?_ ended⟩
      rcases held with phase | phase | ⟨term, phase⟩ <;> rw [phase] <;> rfl
  | heeded cancelled => exact ⟨flawless, .heeded cancelled⟩
  | closed closing => exact ⟨flawless, .closed closing⟩
  | unclosed _ left => simp [flawless] at left

theorem perform?_deed {next : Cluster} (flawless : cluster.faults = {}) {now : Instant}
    {replica : Nat} {move : Move} {notices : List Notice}
    (moved : cluster.perform? now replica move = some (next, events, notices)) :
    ∃ elector signal, cluster.elector? replica = some elector ∧ next.faults = {} ∧
      Deed cluster.coordinator elector next.coordinator signal ∧
      next.electors = cluster.electors.set replica (elector.hear now signal) := by
  obtain ⟨elector, acted, signal, found, acts, rfl⟩ := perform?_acted moved
  obtain ⟨spared, deed⟩ := acts.deed flawless
  exact ⟨elector, signal, found, spared, deed, rfl⟩

end Cluster

/-! What an elector's deed makes of it. -/

/-- The lease of a session that may have entered its election. -/
def Phase.entered? : Phase → Option Lease
  | waiting lease => some lease
  | elected lease => some lease
  | leading lease _ => some lease
  | closing lease => some lease
  | _ => none

theorem Phase.lease?_of_entered? {phase : Phase} {lease : Lease}
    (entered : phase.entered? = some lease) : phase.lease? = some lease := by
  cases phase <;> simp_all [entered?, lease?]

namespace Elector

/-- An elector calls itself stopped when it is. -/
def StopsOpenly (elector : Elector) : Prop :=
  elector.standing = .stopped ↔ elector.phase = .stopped

variable (elector : Elector) (now : Instant) (signal : Signal)

theorem hear_candidate : (elector.hear now signal).candidate = elector.candidate := by
  unfold hear
  split <;> rfl

theorem hear_stopsOpenly (openly : elector.StopsOpenly) :
    (elector.hear now signal).StopsOpenly := by
  unfold StopsOpenly at openly ⊢
  unfold hear
  split <;> simp_all [stop, stepDown]

theorem hear_waiting {lease : Lease} (waits : (elector.hear now signal).phase = .waiting lease) :
    elector.phase = .waiting lease ∨
      elector.phase = .campaigning lease ∧ signal = .entered := by
  unfold hear at waits
  split at waits <;> simp_all [stop, stepDown]

theorem hear_entered? {lease : Lease} (entered : elector.phase.entered? = some lease) :
    (elector.hear now signal).phase.entered? = some lease ∨ signal = .sessionLost ∨
      (∃ error, signal = .campaignRefused error) ∨
        elector.phase = .closing lease ∧ ∃ failure, signal = .sessionClosed failure := by
  unfold hear
  split <;> simp_all [stop, stepDown, Phase.entered?]

end Elector

structure Conduct (after : Coordinator) (elector next : Elector) : Prop where
  candidate : next.candidate = elector.candidate
  key : next.key = elector.key
  openly : elector.StopsOpenly → next.StopsOpenly
  entered : ∀ lease, elector.phase.entered? = some lease → after.isLive lease = true →
    next.phase.entered? = some lease
  waiting : ∀ lease, next.phase = .waiting lease → elector.phase = .waiting lease ∨
    after.Enters elector.key lease

theorem Conduct.refl (after : Coordinator) (elector : Elector) : Conduct after elector elector :=
  ⟨rfl, rfl, id, fun _ entered _ => entered, fun _ => .inl⟩

namespace Deed

variable {before after : Coordinator} {elector : Elector} {signal : Signal}

theorem served (deed : Deed before elector after signal)
    (issued : ∀ lease, elector.phase.lease? = some lease → before.Issued lease) :
    before.Served after := by
  cases deed with
  | opened _ created =>
      have served : before.Served before.createSession.2 := .created
      rwa [created] at served
  | refused _ created =>
      have served : before.Served before.createSession.2 := .created
      rwa [created] at served
  | entered campaigning enlisted =>
      exact .entered (issued _ (by rw [campaigning]; rfl)) enlisted
  | closed => exact .ended _
  | _ => exact .kept

theorem conduct (deed : Deed before elector after signal) (tidy : before.Tidy) (now : Instant) :
    Conduct after elector (elector.hear now signal) := by
  have ended {lease held : Lease} (holds : elector.phase.lease? = some lease)
      (entered : elector.phase.entered? = some held) (ended : before.hasEnded lease = true) :
      before.isLive held = false := by
    have same : held = lease :=
      Option.some.inj ((Phase.lease?_of_entered? entered).symm.trans holds)
    apply Bool.eq_false_iff.mpr
    intro live
    have unended := (tidy.sound.live held live).2
    rw [same] at unended
    exact absurd (ended.symm.trans unended) (by simp)
  refine ⟨elector.hear_candidate now signal, elector.hear_key now signal,
    elector.hear_stopsOpenly now signal, ?_, ?_⟩
  · intro lease entered live
    rcases elector.hear_entered? now signal entered with
      kept | rfl | ⟨error, rfl⟩ | ⟨closing, failure, rfl⟩
    · exact kept
    · cases deed with
      | lost holds gone => exact absurd (live.symm.trans (ended holds entered gone)) (by simp)
    · cases deed with
      | rejected holds gone => exact absurd (live.symm.trans (ended holds entered gone)) (by simp)
    · cases deed with
      | @closed held closes =>
          have same : lease = held := by simpa [closing] using closes
          have apart := ((before.isLive_endSession held lease).mp live).2
          exact absurd same apart
  · intro lease waits
    rcases elector.hear_waiting now signal waits with waited | ⟨campaigning, rfl⟩
    · exact .inl waited
    · cases deed with
      | @entered held next campaigns enlisted =>
          have same : lease = held := by simpa [campaigning] using campaigns
          right
          rw [Coordinator.enlist_ok enlisted]
          exact Coordinator.enters_enlisted.mpr (.inr ⟨rfl, same.symm⟩)

theorem candidates (deed : Deed before elector after signal) (now : Instant)
    {candidate : Candidate} (member : candidate ∈ after.candidates) :
    candidate ∈ before.candidates ∨
      candidate.key = elector.key ∧ candidate.value = elector.candidate ∧
        (elector.hear now signal).phase = .waiting candidate.lease := by
  have created {answer : Except CoordinationError Lease}
      (created : before.createSession = (answer, after)) : candidate ∈ before.candidates := by
    have same : after = before.createSession.2 := by rw [created]
    rw [same, Coordinator.createSession] at member
    split at member <;> exact member
  cases deed with
  | opened _ opened => exact .inl (created opened)
  | refused _ refused => exact .inl (created refused)
  | entered campaigning enlisted =>
      rw [Coordinator.enlist_ok enlisted] at member
      rcases Coordinator.mem_enlisted member with rfl | old
      · exact .inr ⟨rfl, rfl, by simp [Elector.hear, campaigning]⟩
      · exact .inl old
  | @closed lease =>
      exact .inl (before.mem_of_mem_endSession lease member)
  | _ => exact .inl member

end Deed

/-- One step of a cluster whose calls are not made to fail. -/
structure Stride (cluster next : Cluster) (replica : Nat) : Prop
    extends Advance cluster next replica where
  flawless : next.faults = {}
  served : cluster.coordinator.Served next.coordinator
  conduct : ∀ place elector, cluster.elector? place = some elector →
    ∃ moved, next.elector? place = some moved ∧ Conduct next.coordinator elector moved
  candidates : ∀ candidate ∈ next.coordinator.candidates,
    candidate ∈ cluster.coordinator.candidates ∨ ∃ moved, next.elector? replica = some moved ∧
      moved.key = candidate.key ∧ moved.candidate = candidate.value ∧
        moved.phase = .waiting candidate.lease

/-- What holds at every moment of a cluster whose calls are not made to fail. -/
structure Orderly (cluster : Cluster) : Prop extends Sound cluster where
  flawless : cluster.faults = {}
  tidy : cluster.coordinator.Tidy
  positive : ∀ replica elector lease, cluster.elector? replica = some elector →
    elector.phase.lease? = some lease → 0 < lease
  openly : ∀ replica elector, cluster.elector? replica = some elector → elector.StopsOpenly
  owned : ∀ candidate ∈ cluster.coordinator.candidates, ∃ replica elector,
    cluster.elector? replica = some elector ∧ elector.phase.entered? = some candidate.lease ∧
      elector.key = candidate.key ∧ elector.candidate = candidate.value
  enrolled : ∀ replica elector lease, cluster.elector? replica = some elector →
    elector.phase = .waiting lease → cluster.coordinator.isLive lease = true →
      cluster.coordinator.Enters elector.key lease

variable {cluster next : Cluster} {replica : Nat}

theorem Orderly.holds_issued (orderly : Orderly cluster) {elector : Elector} {lease : Lease}
    (found : cluster.elector? replica = some elector)
    (held : elector.phase.lease? = some lease) : cluster.coordinator.Issued lease :=
  ⟨orderly.positive replica elector lease found held,
    orderly.toSound.issued replica elector lease found held⟩

theorem Stride.origin (stride : Stride cluster next replica) {place : Nat} {moved : Elector}
    (found : next.elector? place = some moved) :
    ∃ elector, cluster.elector? place = some elector ∧
      Conduct next.coordinator elector moved := by
  obtain ⟨elector, stood, _⟩ := stride.toAdvance.origin found
  obtain ⟨reached, foundToo, conduct⟩ := stride.conduct place elector stood
  obtain rfl := Option.some.inj (found.symm.trans foundToo)
  exact ⟨elector, stood, conduct⟩

theorem Stride.orderly (stride : Stride cluster next replica) (before : Orderly cluster) :
    Orderly next := by
  have tidy := stride.served.tidy before.tidy
  refine ⟨stride.toAdvance.sound before.toSound, stride.flawless, tidy, ?_, ?_, ?_, ?_⟩
  · intro place moved lease found held
    rcases stride.lease_origin found held with ⟨elector, stood, kept⟩ | ⟨_, fresh, _⟩
    · exact before.positive place elector lease stood kept
    · rw [fresh]
      exact before.tidy.sound.positive
  · intro place moved found
    obtain ⟨elector, stood, conduct⟩ := stride.origin found
    exact conduct.openly (before.openly place elector stood)
  · intro candidate member
    rcases stride.candidates candidate member with old | ⟨moved, found, key, value, waits⟩
    · obtain ⟨place, elector, stood, entered, key, value⟩ := before.owned candidate old
      obtain ⟨moved, found, conduct⟩ := stride.conduct place elector stood
      refine ⟨place, moved, found, ?_, conduct.key.trans key, conduct.candidate.trans value⟩
      exact conduct.entered _ entered (tidy.live candidate member)
    · exact ⟨replica, moved, found, by rw [waits]; rfl, key, value⟩
  · intro place moved lease found waits live
    obtain ⟨elector, stood, conduct⟩ := stride.origin found
    rw [conduct.key]
    rcases conduct.waiting lease waits with waited | enters
    · have issued := before.holds_issued stood (by rw [waited]; rfl)
      have old := stride.service.live lease issued.2 live
      exact stride.served.enters (before.enrolled place elector lease stood waited old) live
    · exact enters

/-! The steps. -/

theorem Orderly.stride_perform? (orderly : Orderly cluster) {now : Instant} {move : Move}
    {events : List Event} {notices : List Notice}
    (moved : cluster.perform? now replica move = some (next, events, notices)) :
    Stride cluster next replica := by
  obtain ⟨advanced, _⟩ := Cluster.advance_perform? moved
  obtain ⟨elector, signal, found, flawless, deed, electors⟩ :=
    Cluster.perform?_deed orderly.flawless moved
  have bound : replica < cluster.electors.length := (List.getElem?_eq_some_iff.mp found).1
  have changed : next.elector? replica = some (elector.hear now signal) := by
    simp [Cluster.elector?, electors, bound]
  refine ⟨advanced, flawless, ?_, ?_, ?_⟩
  · exact deed.served fun lease held => orderly.holds_issued found held
  · intro place other stood
    by_cases same : place = replica
    · subst same
      obtain rfl := Option.some.inj (found.symm.trans stood)
      exact ⟨_, changed, deed.conduct orderly.tidy now⟩
    · exact ⟨other, (advanced.others place same).trans stood, .refl _ other⟩
  · intro candidate member
    rcases deed.candidates now member with old | ⟨key, value, waits⟩
    · exact .inl old
    · refine .inr ⟨_, changed, ?_, ?_, waits⟩
      · exact (elector.hear_key now signal).trans key.symm
      · exact (elector.hear_candidate now signal).trans value.symm

theorem Orderly.stride_modifyElector (orderly : Orderly cluster) (replica : Nat)
    {change : Elector → Elector}
    (turn : ∀ elector, Turn cluster.coordinator cluster.coordinator elector (change elector))
    (conduct : ∀ elector, Conduct cluster.coordinator elector (change elector)) :
    Stride cluster (cluster.modifyElector replica change) replica := by
  refine ⟨cluster.advance_modifyElector replica change turn, orderly.flawless, .kept, ?_, ?_⟩
  · intro place elector stood
    by_cases same : place = replica
    · refine ⟨change elector, ?_, conduct elector⟩
      rw [Cluster.elector?_modifyElector, if_pos same, stood, Option.map_some]
    · refine ⟨elector, ?_, .refl _ elector⟩
      rw [Cluster.elector?_modifyElector, if_neg same, stood]
  · exact fun candidate member => .inl member

theorem Orderly.stride_started (orderly : Orderly cluster) (now : Instant) (replica : Nat) :
    Stride cluster (cluster.modifyElector replica (·.hear now .started)) replica := by
  apply orderly.stride_modifyElector replica
  · exact fun elector => Cluster.Effect.turn (.quiet (by simp) (by simp)) now
  · intro elector
    refine ⟨elector.hear_candidate now _, elector.hear_key now _, elector.hear_stopsOpenly now _,
      ?_, ?_⟩
    · intro lease entered _
      have kept := elector.hear_entered? now .started entered
      simpa using kept
    · intro lease waits
      have waited := elector.hear_waiting now .started waits
      left
      simpa using waited

theorem Orderly.stride_cancel (orderly : Orderly cluster) (replica : Nat) :
    Stride cluster (cluster.cancel replica) replica := by
  apply orderly.stride_modifyElector replica
  · intro elector
    exact ⟨rfl, id, fun _ => .inl, fun _ => .inl, fun _ => .inl⟩
  · intro elector
    exact ⟨rfl, rfl, id, fun _ entered _ => entered, fun _ => .inl⟩

theorem Orderly.stride_withCoordinator (orderly : Orderly cluster) {after : Coordinator}
    (served : cluster.coordinator.Served after)
    (candidates : ∀ candidate ∈ after.candidates, candidate ∈ cluster.coordinator.candidates) :
    Stride cluster (cluster.withCoordinator after) 0 :=
  ⟨Cluster.advance_of_electors 0 served.succeeds rfl, orderly.flawless, served,
    fun _ elector stood => ⟨elector, stood, .refl _ elector⟩,
    fun candidate member => .inl (candidates candidate member)⟩

theorem orderly_ofElectors {electors : List Elector} (new : ∀ elector ∈ electors, elector.IsNew) :
    Orderly (Cluster.ofElectors electors) := by
  have idle {replica : Nat} {elector : Elector}
      (found : (Cluster.ofElectors electors).elector? replica = some elector) : elector.IsNew :=
    new elector (List.mem_of_getElem? found)
  refine ⟨sound_ofElectors new, rfl, Coordinator.start_tidy, ?_, ?_, ?_, ?_⟩
  · intro replica elector lease found held
    simp [(idle found).1, Phase.lease?] at held
  · intro replica elector found
    simp [Elector.StopsOpenly, (idle found).1, (idle found).2]
  · intro candidate member
    cases member
  · intro replica elector lease found waits
    simp [(idle found).1] at waits

end Rota.Election
