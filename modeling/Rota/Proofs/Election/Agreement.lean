import Rota.Proofs.Election.Sessions
import Rota.Proofs.Rows

/-!
Agreement of the electors at rest. A waiting elector sleeps in its campaign call, and moves only
when that call looks at the queue again. Main statement: once nobody that is under way can move, one
elector leads, it is at the front with a live session, and all who ask are told its name.
-/

namespace Rota.Election

/-- A cluster with the campaign calls in which its electors wait. -/
structure Assembly where
  cluster : Cluster
  calls : List (Nat × Call) := []

inductive Occasion where
  | move (now : Instant) (replica : Nat) (move : Move)
  /-- The call of a waiting elector goes on. -/
  | attend (now : Instant) (replica : Nat)
  | start (now : Instant) (replica : Nat)
  | cancel (replica : Nat)
  | expire (lease : Lease)
  | failSessions (count : Nat)
deriving DecidableEq, Repr

def Occasion.mover? : Occasion → Option Nat
  | move _ replica _ => some replica
  | attend _ replica => some replica
  | _ => none

/-- The call in which an elector waits, after its candidate has been entered and announced. -/
def Elector.call? (elector : Elector) : Option Call :=
  match elector.phase with
  | .waiting lease =>
    some { key := elector.key, lease, value := elector.candidate, phase := .subscribing }
  | _ => none

namespace Assembly

def ofElectors (electors : List Elector) : Assembly := { cluster := Cluster.ofElectors electors }

def move? (assembly : Assembly) (now : Instant) (replica : Nat) (move : Move) :
    Option Assembly := do
  let (cluster, _) ← assembly.cluster.perform? now replica move
  let calls := match (cluster.elector? replica).bind Elector.call? with
    | some call => Rows.put replica call assembly.calls
    | none => assembly.calls
  return { cluster, calls }

/-- A call that returns moves its elector; one that does not leaves the service as it is. -/
def attend? (assembly : Assembly) (now : Instant) (replica : Nat) : Option Assembly := do
  let elector ← assembly.cluster.elector? replica
  let call ← Rows.find? replica assembly.calls
  if elector.phase = .waiting call.lease then
    let (_, next) ← call.step? assembly.cluster.coordinator
    match next.phase with
    | .won => assembly.move? now replica .win
    | .failed _ => assembly.move? now replica .refuse
    | _ => some { assembly with calls := Rows.put replica next assembly.calls }
  else none

def happen? (assembly : Assembly) : Occasion → Option Assembly
  | .move now replica move =>
    if move = .win ∨ move = .refuse then none else assembly.move? now replica move
  | .attend now replica => assembly.attend? now replica
  | .start now replica => some { assembly with cluster := (assembly.cluster.start now replica).2 }
  | .cancel replica => some { assembly with cluster := assembly.cluster.cancel replica }
  | .expire lease => some { assembly with cluster := (assembly.cluster.expire lease).2 }
  | .failSessions count =>
    some { assembly with cluster := assembly.cluster.failSessions count }

def follow? (assembly : Assembly) (history : List Occasion) : Option Assembly :=
  history.foldlM happen? assembly

/-- Nothing happens unless time passes or something comes from outside. An elector that was not
started has no task yet, and one that has stopped has none any more, so only what the others could
do counts. -/
def IsStill (assembly : Assembly) (now : Instant) : Prop :=
  ∀ replica elector, assembly.cluster.elector? replica = some elector →
    elector.phase ≠ .idle → elector.phase ≠ .stopped →
      assembly.happen? (.attend now replica) = none ∧
        ∀ move, assembly.happen? (.move now replica move) = none

end Assembly

namespace Call

/-- A call that has entered its candidate and has missed no change of the queue. -/
def IsAwake (coordinator : Coordinator) (call : Call) : Prop :=
  match call.phase with
  | .subscribing => True
  | .checking seen => seen ≤ coordinator.version
  | .parked seen => seen ≤ coordinator.version ∧
      (coordinator.version = seen → coordinator.isFront call.key call.lease = false)
  | _ => False

theorem IsAwake.announced {before after : Coordinator} {call : Call}
    (awake : call.IsAwake before) (announces : before.Announces after) :
    call.IsAwake after := by
  have later := announces.later
  unfold IsAwake at awake ⊢
  cases phase : call.phase with
  | subscribing => trivial
  | checking seen =>
      simp only [phase] at awake ⊢
      omega
  | parked seen =>
      simp only [phase] at awake ⊢
      obtain ⟨old, behind⟩ := awake
      refine ⟨by omega, ?_⟩
      intro unchanged
      -- Whatever came to the front since would have raised the version.
      have still : after.version = before.version := by omega
      have front := behind (still.symm.trans unchanged)
      rw [Coordinator.isFront, Coordinator.leaderLease?_eq_find?] at front ⊢
      rw [announces.same still]
      exact front
  | _ => simp [phase] at awake

/-- A call that goes on, and does not return, stays awake. -/
theorem IsAwake.stepped {coordinator later : Coordinator} {call next : Call}
    (awake : call.IsAwake coordinator) (stepped : call.step? coordinator = some (later, next))
    (unwon : next.phase ≠ .won) (unfailed : ∀ error, next.phase ≠ .failed error) :
    next.key = call.key ∧ next.lease = call.lease ∧ next.IsAwake coordinator := by
  have stepped := Call.step?_stepped stepped
  cases stepped with
  | entered entering => simp [IsAwake, entering] at awake
  | announced announcing => simp [IsAwake, announcing] at awake
  | subscribed => exact ⟨rfl, rfl, Nat.le_refl _⟩
  | won => exact absurd rfl unwon
  | parked checking _ behind =>
      refine ⟨rfl, rfl, ?_, fun _ => behind⟩
      simpa [IsAwake, checking] using awake
  | woken => exact ⟨rfl, rfl, Nat.le_refl _⟩
  | failed => exact absurd rfl (unfailed _)

/-- A call at the front of its queue, with a session that has not ended, does not sleep: it finds
that it has won as soon as it has looked again. -/
theorem IsAwake.goes_on {coordinator : Coordinator} {call : Call}
    (awake : call.IsAwake coordinator) (unended : coordinator.hasEnded call.lease = false)
    (front : coordinator.isFront call.key call.lease = true) :
    ∃ phase, call.step? coordinator = some (coordinator, { call with phase }) ∧
      (phase = .won ∨
        phase = .checking coordinator.version ∧ ∀ seen, call.phase ≠ .checking seen) := by
  unfold IsAwake at awake
  cases phase : call.phase with
  | subscribing =>
      refine ⟨.checking coordinator.version, ?_, by simp⟩
      simp [step?, phase]
  | checking seen =>
      refine ⟨.won, ?_, by simp⟩
      simp [step?, phase, unended, front]
  | parked seen =>
      simp only [phase] at awake
      obtain ⟨_, behind⟩ := awake
      have changed : coordinator.version ≠ seen := by
        intro unchanged
        exact absurd (front.symm.trans (behind unchanged)) (by simp)
      refine ⟨.checking coordinator.version, ?_, by simp⟩
      simp [step?, phase, changed]
  | _ => simp [phase] at awake

end Call

theorem Elector.call?_waiting {elector : Elector} {lease : Lease}
    (waits : elector.phase = .waiting lease) :
    elector.call? = some
      { key := elector.key, lease, value := elector.candidate, phase := .subscribing } := by
  rw [call?, waits]

namespace Assembly

/-- What holds of electors and their calls at every moment. -/
structure Sound (assembly : Assembly) : Prop where
  orderly : Orderly assembly.cluster
  awake : ∀ replica elector lease, assembly.cluster.elector? replica = some elector →
    elector.phase = .waiting lease → ∃ call, Rows.find? replica assembly.calls = some call ∧
      call.key = elector.key ∧ call.lease = lease ∧ call.IsAwake assembly.cluster.coordinator

variable {assembly next : Assembly}

theorem Sound.strode (sound : assembly.Sound) {cluster : Cluster} {calls : List (Nat × Call)}
    {replica : Nat} (stride : Stride assembly.cluster cluster replica)
    (waits : ∀ place moved lease, cluster.elector? place = some moved →
      moved.phase = .waiting lease →
        (∃ elector, assembly.cluster.elector? place = some elector ∧
          elector.phase = .waiting lease ∧ elector.key = moved.key ∧
            Rows.find? place calls = Rows.find? place assembly.calls) ∨
        ∃ call, Rows.find? place calls = some call ∧ call.key = moved.key ∧
          call.lease = lease ∧ call.IsAwake cluster.coordinator) :
    Sound { cluster, calls } := by
  refine ⟨stride.orderly sound.orderly, ?_⟩
  intro place moved lease found waiting
  rcases waits place moved lease found waiting with ⟨elector, stood, waited, key, same⟩ | fresh
  · obtain ⟨call, called, callKey, callLease, awake⟩ :=
      sound.awake place elector lease stood waited
    refine ⟨call, same.trans called, callKey.trans key, callLease, ?_⟩
    exact awake.announced (stride.served.announces sound.orderly.tidy)
  · exact fresh

theorem Sound.modified (sound : assembly.Sound) {replica : Nat} {change : Elector → Elector}
    (stride : Stride assembly.cluster (assembly.cluster.modifyElector replica change) replica)
    (waits : ∀ elector lease, (change elector).phase = .waiting lease →
      elector.phase = .waiting lease) :
    Sound { assembly with cluster := assembly.cluster.modifyElector replica change } := by
  apply sound.strode stride
  intro place moved lease found waiting
  obtain ⟨elector, stood, conduct⟩ := stride.origin found
  left
  refine ⟨elector, stood, ?_, conduct.key.symm, rfl⟩
  rw [Cluster.elector?_modifyElector, stood] at found
  split at found
  · cases found
    exact waits elector lease waiting
  · cases found
    exact waiting

theorem Sound.moved (sound : assembly.Sound) {now : Instant} {replica : Nat} {move : Move}
    (moved : assembly.move? now replica move = some next) : next.Sound := by
  simp only [move?, bind, Option.bind_eq_some_iff, pure, Option.some.injEq] at moved
  obtain ⟨⟨cluster, events, notices⟩, performed, rfl⟩ := moved
  have stride := sound.orderly.stride_perform? performed
  apply sound.strode stride
  intro place moved lease found waits
  by_cases same : place = replica
  · subst same
    right
    simp only [found, Option.bind_some, Elector.call?_waiting waits]
    exact ⟨_, Rows.find?_put_self _ _ _, rfl, rfl, trivial⟩
  · left
    refine ⟨moved, (stride.others place same).symm.trans found, waits, rfl, ?_⟩
    dsimp only
    split
    · exact Rows.find?_put_of_ne _ _ same
    · rfl

theorem Sound.attended (sound : assembly.Sound) {now : Instant} {replica : Nat}
    (attended : assembly.attend? now replica = some next) : next.Sound := by
  simp only [attend?, bind, Option.bind_eq_some_iff, Option.ite_none_right_eq_some] at attended
  obtain ⟨elector, found, call, called, waits, ⟨later, reached⟩, stepped, attended⟩ := attended
  dsimp only at attended
  obtain ⟨other, calledToo, key, lease, awake⟩ :=
    sound.awake replica elector call.lease found waits
  obtain rfl := Option.some.inj (called.symm.trans calledToo)
  split at attended
  · exact sound.moved attended
  · exact sound.moved attended
  · rename_i unwon unfailed
    cases attended
    obtain ⟨sameKey, sameLease, stays⟩ := awake.stepped stepped unwon unfailed
    apply sound.strode (sound.orderly.stride_withCoordinator .kept fun _ member => member)
    intro place moved lease stood waiting
    by_cases same : place = replica
    · subst same
      obtain rfl := Option.some.inj (found.symm.trans stood)
      have held : call.lease = lease := by simpa [waits] using waiting
      right
      exact ⟨reached, Rows.find?_put_self _ _ _, sameKey.trans key, sameLease.trans held, stays⟩
    · left
      exact ⟨moved, stood, waiting, rfl, Rows.find?_put_of_ne _ _ same⟩

theorem Sound.happen? (sound : assembly.Sound) {occasion : Occasion}
    (happened : assembly.happen? occasion = some next) : next.Sound := by
  cases occasion with
  | move now replica move =>
      simp only [Assembly.happen?] at happened
      split at happened
      · simp at happened
      · exact sound.moved happened
  | attend now replica => exact sound.attended happened
  | start now replica =>
      simp only [Assembly.happen?, Cluster.start] at happened
      split at happened
      · cases happened
        exact sound
      · cases happened
        apply sound.modified (sound.orderly.stride_started now replica)
        intro elector lease waits
        simpa using elector.hear_waiting now .started waits
  | cancel replica =>
      cases happened
      exact sound.modified (sound.orderly.stride_cancel replica) fun elector lease waits => waits
  | expire lease =>
      cases happened
      apply sound.strode (sound.orderly.stride_withCoordinator (.ended lease) ?_)
      · intro place moved lease found waits
        exact .inl ⟨moved, found, waits, rfl, rfl⟩
      · exact fun candidate member => Coordinator.mem_of_mem_endSession _ lease member
  | failSessions count =>
      cases happened
      apply sound.strode (sound.orderly.stride_withCoordinator (.failing count) ?_)
      · intro place moved lease found waits
        exact .inl ⟨moved, found, waits, rfl, rfl⟩
      · exact fun candidate member => member

/-! The cluster of an assembly. -/

theorem move?_cluster {now : Instant} {replica : Nat} {move : Move}
    (moved : assembly.move? now replica move = some next) :
    assembly.cluster.happen? (.move now replica move) = some next.cluster := by
  simp only [move?, bind, Option.bind_eq_some_iff, pure, Option.some.injEq] at moved
  obtain ⟨⟨cluster, events, notices⟩, performed, rfl⟩ := moved
  simp [Cluster.happen?, performed]

/-- An occasion is one step of the cluster, by the same elector, or leaves it alone. -/
theorem happen?_atomic {occasion : Occasion}
    (happened : assembly.happen? occasion = some next) : next.cluster = assembly.cluster ∨
      ∃ happening : Happening, happening.isAtomic = true ∧
      happening.mover? = occasion.mover? ∧
      assembly.cluster.happen? happening = some next.cluster := by
  cases occasion with
  | move now replica move =>
      simp only [happen?] at happened
      split at happened
      · simp at happened
      · exact .inr ⟨_, rfl, rfl, move?_cluster happened⟩
  | attend now replica =>
      simp only [happen?, attend?, bind, Option.bind_eq_some_iff,
        Option.ite_none_right_eq_some] at happened
      obtain ⟨elector, _, call, _, _, ⟨_, reached⟩, _, happened⟩ := happened
      dsimp only at happened
      split at happened
      · exact .inr ⟨_, rfl, rfl, move?_cluster happened⟩
      · exact .inr ⟨_, rfl, rfl, move?_cluster happened⟩
      · cases happened
        exact .inl rfl
  | start now replica =>
      cases happened
      exact .inr ⟨.start now replica, rfl, rfl, rfl⟩
  | cancel replica =>
      cases happened
      exact .inr ⟨.cancel replica, rfl, rfl, rfl⟩
  | expire lease =>
      cases happened
      exact .inr ⟨.expire lease, rfl, rfl, rfl⟩
  | failSessions count =>
      cases happened
      exact .inr ⟨.failSessions count, rfl, rfl, rfl⟩

/-- A run of the assembly is a history of its cluster. -/
theorem follow?_cluster {history : List Occasion}
    (followed : assembly.follow? history = some next) :
    ∃ happenings, assembly.cluster.follow? happenings = some next.cluster := by
  induction history generalizing assembly with
  | nil =>
      obtain rfl := Option.some.inj followed
      exact ⟨[], rfl⟩
  | cons occasion history ih =>
      simp only [follow?, List.foldlM_cons, bind, Option.bind_eq_some_iff] at followed
      obtain ⟨reached, happened, followed⟩ := followed
      obtain ⟨happenings, ran⟩ := ih followed
      rcases happen?_atomic happened with same | ⟨happening, _, _, stepped⟩
      · exact ⟨happenings, same ▸ ran⟩
      · refine ⟨happening :: happenings, ?_⟩
        simpa [Cluster.follow?, stepped] using ran

variable {electors : List Elector}

theorem sound_ofElectors (new : ∀ elector ∈ electors, elector.IsNew) :
    (ofElectors electors).Sound := by
  refine ⟨orderly_ofElectors new, ?_⟩
  intro replica elector lease found waits
  have idle := (new elector (List.mem_of_getElem? found)).1
  simp [idle] at waits

theorem sound_of_follow? (new : ∀ elector ∈ electors, elector.IsNew) {history : List Occasion}
    (followed : (ofElectors electors).follow? history = some assembly) : assembly.Sound :=
  run_induction (fun _ _ _ _ happened sound => sound.happen? happened) followed
    (sound_ofElectors new)

/-! Rest. -/

/-- The phases in which an elector may be at rest. -/
inductive Rests (coordinator : Coordinator) (elector : Elector) : Prop
  | idle : elector.phase = .idle → Rests coordinator elector
  | paused {wake} : elector.wake? = some wake → Rests coordinator elector
  | waiting {lease} : elector.phase = .waiting lease → coordinator.hasEnded lease = false →
      Rests coordinator elector
  | leading {lease term} : elector.phase = .leading lease term →
      coordinator.hasEnded lease = false → Rests coordinator elector
  | stopped : elector.phase = .stopped → Rests coordinator elector

variable {now : Instant} {replica : Nat} {elector : Elector}

theorem move?_of_act {move : Move} {acted : Cluster × Signal × List Event}
    (found : assembly.cluster.elector? replica = some elector)
    (acting : assembly.cluster.act now elector move = some acted) :
    ∃ next, assembly.move? now replica move = some next := by
  have stood : assembly.cluster.electors[replica]? = some elector := found
  simp [move?, Cluster.perform?, stood, acting]

theorem IsStill.act_eq_none (still : assembly.IsStill now)
    (found : assembly.cluster.elector? replica = some elector)
    (started : elector.phase ≠ .idle) (unstopped : elector.phase ≠ .stopped) {move : Move}
    (unwon : move ≠ .win) (unrefused : move ≠ .refuse) :
    assembly.cluster.act now elector move = none := by
  rw [Option.eq_none_iff_forall_ne_some]
  intro acted acting
  obtain ⟨next, moved⟩ := move?_of_act found acting
  have unmoved := (still replica elector found started unstopped).2 move
  simp [happen?, unwon, unrefused, moved] at unmoved

theorem IsStill.rests (still : assembly.IsStill now)
    (found : assembly.cluster.elector? replica = some elector) :
    Rests assembly.cluster.coordinator elector := by
  by_cases idle : elector.phase = .idle
  · exact .idle idle
  by_cases stopped : elector.phase = .stopped
  · exact .stopped stopped
  have none (move : Move) (unwon : move ≠ .win) (unrefused : move ≠ .refuse) :
      assembly.cluster.act now elector move = none :=
    still.act_eq_none found idle stopped unwon unrefused
  cases phase : elector.phase with
  | idle => exact .idle phase
  | opening => simpa [Cluster.act, phase] using none .open (by decide) (by decide)
  | openPause wake => exact .paused (by rw [Elector.wake?, phase])
  | campaigning lease => simpa [Cluster.act, phase] using none .enter (by decide) (by decide)
  | waiting lease =>
      refine .waiting phase ?_
      simpa [Cluster.act, phase] using none .lose (by decide) (by decide)
  | campaignPause lease wake => exact .paused (by rw [Elector.wake?, phase])
  | elected lease => simpa [Cluster.act, phase] using none .seat (by decide) (by decide)
  | leading lease term =>
      refine .leading phase ?_
      simpa [Cluster.act, phase] using none .lose (by decide) (by decide)
  | closing lease => simpa [Cluster.act, phase] using none .close (by decide) (by decide)
  | stopped => exact .stopped phase

/-- Nobody sleeps at the front of a queue. -/
theorem Sound.behind (sound : assembly.Sound) (still : assembly.IsStill now)
    (found : assembly.cluster.elector? replica = some elector) {lease : Lease}
    (waits : elector.phase = .waiting lease)
    (unended : assembly.cluster.coordinator.hasEnded lease = false) :
    assembly.cluster.coordinator.isFront elector.key lease = false := by
  obtain ⟨call, called, key, rfl, awake⟩ := sound.awake replica elector lease found waits
  apply Bool.eq_false_iff.mpr
  intro front
  rw [← key] at front
  obtain ⟨phase, stepped, went⟩ := awake.goes_on unended front
  have acting : assembly.cluster.act now elector .win = some (assembly.cluster, .won, []) := by
    rw [key] at front
    simp [Cluster.act, waits, unended, front]
  obtain ⟨moved, wins⟩ := move?_of_act found acting
  have unattended := (still replica elector found (by simp [waits]) (by simp [waits])).1
  rcases went with rfl | ⟨rfl, _⟩ <;>
    simp [Assembly.happen?, attend?, found, called, waits, stepped, wins] at unattended

theorem choice_cases {cluster : Cluster} {move : Move}
    (chosen : cluster.choice now elector = some move) :
    (∃ acted, cluster.act now elector move = some acted) ∧ move ≠ .refuse ∧
      (move = .win → ∃ lease, elector.phase = .waiting lease ∧
        cluster.coordinator.hasEnded lease = false ∧
        cluster.coordinator.isFront elector.key lease = true) := by
  -- A phase leaves few moves to choose from, and each of them is one that it allows.
  cases phase : elector.phase <;> simp only [Cluster.choice, phase] at chosen <;>
    cases move <;> simp_all [Cluster.act] <;> grind

/-- At rest there is no move that settling the cluster would make. -/
theorem Sound.nextMove_eq_none (sound : assembly.Sound) (still : assembly.IsStill now) :
    assembly.cluster.nextMove now = none := by
  rw [Cluster.nextMove, List.findSome?_eq_none_iff]
  intro replica _
  rw [Option.eq_none_iff_forall_ne_some]
  rintro ⟨place, move⟩ chosen
  simp only [bind, Option.bind_eq_some_iff, pure, Option.some.injEq] at chosen
  obtain ⟨elector, found, chosen, choice, _⟩ := chosen
  obtain ⟨⟨acted, acting⟩, unrefused, waiting⟩ := choice_cases choice
  by_cases won : chosen = .win
  · obtain ⟨lease, waits, unended, front⟩ := waiting won
    have behind := sound.behind still found waits unended
    exact absurd (front.symm.trans behind) (by simp)
  · have started : elector.phase ≠ .idle := by
      intro idle
      simp [Cluster.choice, idle] at choice
    have unstopped : elector.phase ≠ .stopped := by
      intro stopped
      simp [Cluster.choice, stopped] at choice
    have unmoved := still.act_eq_none found started unstopped won unrefused
    simp [unmoved] at acting

/-- At rest the candidate at the front of a queue belongs to an elector that leads. -/
theorem Sound.front_leads (sound : assembly.Sound) (still : assembly.IsStill now)
    {key : String} {candidate : Candidate}
    (front : assembly.cluster.coordinator.front? key = some candidate) :
    ∃ leader elector, assembly.cluster.elector? leader = some elector ∧ elector.key = key ∧
      elector.isLeader = true ∧ elector.candidate = candidate.value := by
  have queued := List.mem_of_head? front
  obtain ⟨member, matching⟩ := List.mem_filter.mp queued
  have sameKey : candidate.key = key := by simpa using matching
  obtain ⟨leader, elector, found, entered, ownKey, value⟩ := sound.orderly.owned candidate member
  refine ⟨leader, elector, found, ownKey.trans sameKey, ?_, value⟩
  cases still.rests found with
  | idle phase => simp [phase, Phase.entered?] at entered
  | @paused wake paused =>
      cases phase : elector.phase <;> simp_all [Elector.wake?, Phase.entered?]
  | @waiting lease waits unended =>
      have behind := sound.behind still found waits unended
      have same : lease = candidate.lease := by simpa [waits, Phase.entered?] using entered
      rw [Coordinator.isFront, Coordinator.leaderLease?, ownKey.trans sameKey, front, same]
        at behind
      simp at behind
  | leading leads unended =>
      have standing := (sound.orderly.standing leader elector found _).mpr ⟨_, leads⟩
      rw [Elector.isLeader, standing]
  | stopped phase => simp [phase, Phase.entered?] at entered

theorem Sound.leader_live (sound : assembly.Sound) (still : assembly.IsStill now)
    (found : assembly.cluster.elector? replica = some elector)
    (leads : elector.isLeader = true) :
    ∃ lease, assembly.cluster.Leads replica elector.key lease ∧
      assembly.cluster.coordinator.isLive lease = true := by
  obtain ⟨lease, term, leading⟩ :=
    (sound.orderly.standing replica elector found).leading leads
  have issued : assembly.cluster.coordinator.Issued lease :=
    sound.orderly.holds_issued found (by rw [leading]; rfl)
  refine ⟨lease, ⟨elector, term, found, rfl, leads, leading⟩, ?_⟩
  apply (sound.orderly.tidy.hasEnded_iff issued).mp
  cases still.rests found with
  | idle phase => simp [leading] at phase
  | paused paused => simp [Elector.wake?, leading] at paused
  | waiting waits => simp [leading] at waits
  | leading leadsToo unended =>
      have same := leading.symm.trans leadsToo
      simp only [Phase.leading.injEq] at same
      rwa [same.1]
  | stopped phase => simp [leading] at phase

theorem Sound.leader_unique (sound : assembly.Sound) (still : assembly.IsStill now)
    {first second : Nat} {elector other : Elector}
    (found : assembly.cluster.elector? first = some elector)
    (foundToo : assembly.cluster.elector? second = some other) (sameKey : other.key = elector.key)
    (leads : elector.isLeader = true) (leadsToo : other.isLeader = true) : first = second := by
  obtain ⟨lease, leading, live⟩ := sound.leader_live still found leads
  obtain ⟨otherLease, rival, rivalLive⟩ := sound.leader_live still foundToo leadsToo
  rw [sameKey] at rival
  exact sound.orderly.toSound.leads_unique leading rival live rivalLive

/-- Where somebody waits with a session that has not ended, somebody is at the front. -/
theorem Sound.front_of_waiting (sound : assembly.Sound)
    (found : assembly.cluster.elector? replica = some elector) {lease : Lease}
    (waits : elector.phase = .waiting lease)
    (unended : assembly.cluster.coordinator.hasEnded lease = false) :
    ∃ candidate, assembly.cluster.coordinator.front? elector.key = some candidate := by
  have issued : assembly.cluster.coordinator.Issued lease :=
    sound.orderly.holds_issued found (by rw [waits]; rfl)
  have live := (sound.orderly.tidy.hasEnded_iff issued).mp unended
  obtain ⟨candidate, member, sameKey, _⟩ :=
    sound.orderly.enrolled replica elector lease found waits live
  have queued : candidate ∈ assembly.cluster.coordinator.queue elector.key :=
    List.mem_filter.mpr ⟨member, by simpa using sameKey⟩
  exact Option.ne_none_iff_exists'.mp (mt List.head?_eq_none_iff.mp (List.ne_nil_of_mem queued))

/-- At rest somebody leads the election of an elector that neither pauses nor has stopped: it
leads itself, or its candidate waits behind another. -/
theorem Sound.someone_leads (sound : assembly.Sound) (still : assembly.IsStill now)
    (found : assembly.cluster.elector? replica = some elector)
    (started : elector.hasStarted = true) (unstopped : elector.hasStopped = false)
    (awake : elector.wake? = none) : ∃ leader owner, assembly.cluster.elector? leader = some owner ∧
      owner.key = elector.key ∧ owner.isLeader = true := by
  cases still.rests found with
  | idle phase => simp [Elector.hasStarted, phase] at started
  | paused paused => simp [awake] at paused
  | waiting waits unended =>
      obtain ⟨front, first⟩ := sound.front_of_waiting found waits unended
      obtain ⟨leader, owner, stood, ownerKey, leads, _⟩ := sound.front_leads still first
      exact ⟨leader, owner, stood, ownerKey, leads⟩
  | leading leads =>
      have standing := (sound.orderly.standing replica elector found _).mpr ⟨_, leads⟩
      exact ⟨replica, elector, found, rfl, by rw [Elector.isLeader, standing]⟩
  | stopped phase =>
      have standing := (sound.orderly.openly replica elector found).mpr phase
      simp [Elector.hasStopped, standing] at unstopped

theorem Sound.queryLeader (sound : assembly.Sound)
    (found : assembly.cluster.elector? replica = some elector) :
    (assembly.cluster.queryLeader replica).1 =
      (assembly.cluster.coordinator.front? elector.key).map Candidate.value := by
  have spared : assembly.cluster.faults.queries = 0 := by rw [sound.orderly.flawless]
  simp [Cluster.queryLeader, spared, found, Coordinator.leader?]

/-- Whatever happened to a cluster of new electors, once none that is under way can move, whoever
leads an election is at its front with a live session, is the only one to lead it, and is named to
all who ask; somebody leads as soon as one elector campaigns; and where nobody leads, nobody is
named. -/
theorem agreement_at_rest (new : ∀ elector ∈ electors, elector.IsNew) {history : List Occasion}
    (followed : (ofElectors electors).follow? history = some assembly)
    (still : assembly.IsStill now) (key : String) :
    (∀ leader elector, assembly.cluster.elector? leader = some elector → elector.key = key →
      elector.isLeader = true →
        (∃ lease, assembly.cluster.Leads leader key lease ∧
          assembly.cluster.coordinator.isLive lease = true ∧
          assembly.cluster.coordinator.leaderLease? key = some lease) ∧
        ∀ replica other, assembly.cluster.elector? replica = some other → other.key = key →
          (assembly.cluster.queryLeader replica).1 = some elector.candidate ∧
          (other.isLeader = true → replica = leader)) ∧
    ((∃ replica elector, assembly.cluster.elector? replica = some elector ∧ elector.key = key ∧
      elector.hasStarted = true ∧ elector.hasStopped = false ∧ elector.wake? = none) →
        ∃! leader, ∃ elector, assembly.cluster.elector? leader = some elector ∧
          elector.key = key ∧ elector.isLeader = true) ∧
    ((∀ replica elector, assembly.cluster.elector? replica = some elector →
      elector.key = key → elector.isLeader = false) →
        ∀ replica elector, assembly.cluster.elector? replica = some elector →
          elector.key = key → (assembly.cluster.queryLeader replica).1 = none) := by
  have sound := sound_of_follow? new followed
  refine ⟨?_, ?_, ?_⟩
  · rintro leader elector found rfl leads
    obtain ⟨lease, leading, live⟩ := sound.leader_live still found leads
    have front := sound.orderly.toSound.leads_front leading live
    refine ⟨⟨lease, leading, live, front⟩, ?_⟩
    intro replica other foundToo sameKey
    refine ⟨?_, fun leadsToo =>
      (sound.leader_unique still found foundToo sameKey leads leadsToo).symm⟩
    obtain ⟨candidate, first, _⟩ := Option.map_eq_some_iff.mp front
    obtain ⟨place, owner, stood, ownerKey, ownerLeads, value⟩ := sound.front_leads still first
    obtain rfl := sound.leader_unique still found stood ownerKey leads ownerLeads
    obtain rfl := Option.some.inj (stood.symm.trans found)
    rw [sound.queryLeader foundToo, sameKey, first, Option.map_some, value]
  · rintro ⟨replica, elector, found, rfl, started, unstopped, awake⟩
    obtain ⟨leader, owner, stood, ownerKey, leads⟩ :=
      sound.someone_leads still found started unstopped awake
    refine ⟨leader, ⟨owner, stood, ownerKey, leads⟩, ?_⟩
    rintro place ⟨other, foundToo, otherKey, leadsToo⟩
    exact sound.leader_unique still foundToo stood (ownerKey.trans otherKey.symm) leadsToo leads
  · intro none replica elector found ownKey
    rw [sound.queryLeader found, ownKey, Option.map_eq_none_iff]
    rw [Option.eq_none_iff_forall_ne_some]
    intro candidate first
    obtain ⟨leader, owner, stood, ownerKey, leads, _⟩ := sound.front_leads still first
    exact absurd (leads.symm.trans (none leader owner stood ownerKey)) (by simp)

end Assembly

/-- Of three electors one is told to stop before it was ever started. The other two campaign; the
session of the first runs out while it leads, and comes back to wait behind the second, which has
slept until then. Then the second is told to stop, and the first leads again. -/
def takeover : List Occasion :=
  [.start 0 0, .start 0 1, .move 0 0 .open, .move 0 0 .enter, .attend 0 0, .attend 0 0,
    .move 0 0 .seat, .move 0 1 .open, .move 0 1 .enter, .attend 0 1, .attend 0 1, .cancel 2,
    .expire 1, .attend 7 1, .attend 7 1, .move 7 1 .seat, .move 7 0 .lose, .move 7 0 .open,
    .move 7 0 .enter, .attend 7 0, .attend 7 0, .cancel 1, .move 8 1 .heed, .move 8 1 .close,
    .attend 8 0, .attend 8 0, .move 8 0 .seat]

theorem agreement_after_takeover :
    (∀ elector ∈ rivals ++ [{ candidate := "c" }], elector.IsNew) ∧
      ∃ assembly,
        (Assembly.ofElectors (rivals ++ [{ candidate := "c" }])).follow? takeover = some assembly ∧
        assembly.IsStill 8 ∧ (assembly.cluster.elector? 1).any Elector.cancelled = true ∧
        (assembly.cluster.elector? 2).any Elector.cancelled = true ∧
        ∀ replica elector, assembly.cluster.elector? replica = some elector →
          elector.key = ({} : Settings).key →
            (assembly.cluster.queryLeader replica).1 = some "a" ∧
              (elector.isLeader = true → replica = 0) := by
  have new : ∀ elector ∈ rivals ++ [{ candidate := "c" }], elector.IsNew := by
    simp [rivals, Elector.IsNew]
  obtain ⟨assembly, followed, still, second, third, first, found, key, leads, candidate⟩ :
      ∃ assembly,
        (Assembly.ofElectors (rivals ++ [{ candidate := "c" }])).follow? takeover = some assembly ∧
        assembly.IsStill 8 ∧ (assembly.cluster.elector? 1).any Elector.cancelled = true ∧
        (assembly.cluster.elector? 2).any Elector.cancelled = true ∧
        ∃ elector, assembly.cluster.elector? 0 = some elector ∧
          elector.key = ({} : Settings).key ∧ elector.isLeader = true ∧
            elector.candidate = "a" := by
    refine ⟨_, rfl, ?_, rfl, rfl, _, rfl, rfl, rfl, rfl⟩
    intro replica elector found started unstopped
    rcases replica with _ | _ | _ | replica
    · exact ⟨rfl, fun move => by cases move <;> rfl⟩
    · cases found
      exact absurd rfl unstopped
    · cases found
      exact absurd rfl started
    · cases found
  refine ⟨new, assembly, followed, still, second, third, ?_⟩
  have agreed := (Assembly.agreement_at_rest new followed still ({} : Settings).key).1
  rw [← candidate]
  exact (agreed 0 first found key leads).2

end Rota.Election
