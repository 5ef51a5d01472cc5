import Rota.Proofs.Election.Career

/-!
What electors do with their sessions. Main statement: an elector uses one session at a time,
never campaigns with one that it has seen lost or has closed, and leaves none behind when it
stops, whenever it is told to. With the in-memory service no session outlives its elector.
-/

namespace Rota.Election

/-- What an elector has done, for what it holds. -/
structure Accounts (grip : Grip) (feats : List Feat) : Prop where
  held : ∀ lease, grip = .held lease ↔
    .opened lease ∈ feats ∧ .lost lease ∉ feats ∧ .closing lease ∉ feats
  closing : ∀ lease, grip = .closing lease ↔ .closing lease ∈ feats ∧ .closed lease ∉ feats
  known : ∀ lease, .lost lease ∈ feats ∨ .closing lease ∈ feats → .opened lease ∈ feats
  closed : ∀ lease, .closed lease ∈ feats → .closing lease ∈ feats
  apart : ∀ lease, .lost lease ∈ feats → .closing lease ∉ feats
  once : ∀ lease, feats.count (.closing lease) ≤ 1
  campaigns : ∀ lease before after, feats = before ++ .campaigned lease :: after →
    .opened lease ∈ before ∧ .lost lease ∉ before ∧ .closing lease ∉ before

namespace Accounts

variable {grip next : Grip} {feats : List Feat} {feat : Feat} {lease : Lease}

theorem start : Accounts .free [] := by
  constructor <;> simp

theorem campaigns_append (accounts : Accounts grip feats) (handles : Handles grip (some feat) next)
    {before after : List Feat} (split : feats ++ [feat] = before ++ .campaigned lease :: after) :
    .opened lease ∈ before ∧ .lost lease ∉ before ∧ .closing lease ∉ before := by
  rcases append_singleton_eq_split.mp split with ⟨rfl, rfl, _⟩ | ⟨rest, _, earlier⟩
  · cases handles with
    | campaigned => exact (accounts.held lease).mp rfl
  · exact accounts.campaigns lease before rest earlier

theorem append (accounts : Accounts grip feats) (handles : Handles grip (some feat) next)
    (fresh : ∀ lease, feat = .opened lease → .opened lease ∉ feats) :
    Accounts next (feats ++ [feat]) := by
  have campaigns (lease : Lease) (before after : List Feat)
      (split : feats ++ [feat] = before ++ .campaigned lease :: after) :
      .opened lease ∈ before ∧ .lost lease ∉ before ∧ .closing lease ∉ before :=
    accounts.campaigns_append handles split
  have ⟨held, closing, known, closed, apart, once, _⟩ := accounts
  cases handles with
  | @opened lease =>
      -- Of a session that is new there is nothing on record.
      have unopened := fresh lease rfl
      have unlost : .lost lease ∉ feats := fun old => unopened (known lease (.inl old))
      have unclosing : .closing lease ∉ feats := fun old => unopened (known lease (.inr old))
      refine ⟨?_, ?_, ?_, ?_, ?_, ?_, campaigns⟩ <;> grind
  | _ => refine ⟨?_, ?_, ?_, ?_, ?_, ?_, campaigns⟩ <;> grind

theorem handles (accounts : Accounts grip feats) {feat : Option Feat}
    (handles : Handles grip feat next)
    (fresh : ∀ lease, feat = some (.opened lease) → .opened lease ∉ feats) :
    Accounts next (feats ++ feat.toList) := by
  cases feat with
  | none =>
      cases handles
      rwa [Option.toList_none, List.append_nil]
  | some feat => exact accounts.append handles fun lease same => fresh lease (congrArg some same)

end Accounts

theorem Phase.lease?_iff_grip {phase : Phase} {lease : Lease} :
    phase.lease? = some lease ↔ phase.grip = .held lease ∨ phase.grip = .closing lease := by
  cases phase <;> simp [lease?, grip]

namespace Elector

variable {elector : Elector} {signal : Signal} {lease : Lease}

theorem feat?_opened (opened : elector.feat? signal = some (.opened lease)) :
    elector.phase = .opening ∧ signal = .sessionOpened lease := by
  unfold feat? at opened
  split at opened <;> simp_all

theorem feat?_lost (lost : elector.feat? signal = some (.lost lease)) :
    signal = .sessionLost ∧ elector.phase.tenure? = some lease := by
  unfold feat? at lost
  split at lost <;> simp_all [Phase.tenure?]

theorem feat?_closed (closed : elector.feat? signal = some (.closed lease)) :
    elector.phase = .closing lease ∧ ∃ failure, signal = .sessionClosed failure := by
  unfold feat? at closed
  split at closed <;> simp_all

/-- An elector lets its session go only when it sees it lost or has closed it. -/
theorem hear_lease?_kept (now : Instant) (signal : Signal)
    (held : elector.phase.lease? = some lease) :
    (elector.hear now signal).phase.lease? = some lease ∨ signal = .sessionLost ∨
      elector.phase = .closing lease ∧ ∃ failure, signal = .sessionClosed failure := by
  have handles := elector.hear_handles now signal
  have lost : elector.feat? signal = some (.lost lease) → signal = .sessionLost :=
    fun feat => (feat?_lost feat).1
  have closed : elector.feat? signal = some (.closed lease) → _ := feat?_closed
  rw [Phase.lease?_iff_grip] at held ⊢
  generalize elector.feat? signal = feat at handles lost closed
  generalize (elector.hear now signal).phase.grip = next at handles ⊢
  rcases held with held | closing
  · rw [held] at handles
    cases handles with
    | lost => exact .inr (.inl (lost rfl))
    | _ => simp
  · rw [closing] at handles
    cases handles with
    | closed => exact .inr (.inr (closed rfl))
    | kept => simp

end Elector

namespace Career

/-- A session that the elector has opened, and neither seen lost nor closed. -/
def InUse (career : Career) (lease : Lease) : Prop :=
  .opened lease ∈ career.feats ∧ .lost lease ∉ career.feats ∧ .closed lease ∉ career.feats

structure Accounted (career : Career) : Prop where
  accounts : Accounts career.elector.phase.grip career.feats
  lost : ∀ lease, .lost lease ∈ career.feats → lease ∈ career.ended
  openly : career.elector.StopsOpenly

variable {career next : Career} {lease : Lease}

theorem Accounted.heard (accounted : career.Accounted) (now : Instant) {signal : Signal}
    (heard : career.hears signal = true ∨ signal = .started) :
    (career.hear now signal).Accounted := by
  have openly := career.elector.hear_stopsOpenly now signal accounted.openly
  have handles := career.elector.hear_handles now signal
  refine ⟨?_, ?_, openly⟩
  · apply accounted.accounts.handles handles
    intro lease came
    obtain ⟨_, rfl⟩ := Elector.feat?_opened came
    simp only [hears, reduceCtorEq, or_false, Bool.and_eq_true, Bool.not_eq_true'] at heard
    simpa using heard.2
  · intro lease lost
    rcases List.mem_append.mp lost with old | new
    · exact accounted.lost lease old
    · obtain ⟨rfl, held⟩ := Elector.feat?_lost (Option.mem_toList.mp new)
      simp only [hears, reduceCtorEq, or_false, Bool.and_eq_true, held, Option.any_some] at heard
      exact List.contains_iff_mem.mp heard.2

theorem Accounted.changes (accounted : career.Accounted) (changes : career.Changes next) :
    next.Accounted := by
  cases changes with
  | heard now hears => exact accounted.heard now hears
  | cancelled => exact ⟨accounted.accounts, accounted.lost, accounted.openly⟩
  | expired lease =>
      refine ⟨accounted.accounts, ?_, accounted.openly⟩
      exact fun other lost => List.mem_cons_of_mem _ (accounted.lost other lost)

theorem start_accounted (candidate : String) (settings : Settings) :
    Accounted { elector := { candidate, settings } } := by
  refine ⟨Accounts.start, ?_, ?_⟩
  · intro lease lost
    cases lost
  · simp [Elector.StopsOpenly]

theorem Accounted.inUse (accounted : career.Accounted) (used : career.InUse lease) :
    career.elector.phase.lease? = some lease := by
  obtain ⟨opened, unlost, unclosed⟩ := used
  rw [Phase.lease?_iff_grip, accounted.accounts.held, accounted.accounts.closing]
  by_cases closing : .closing lease ∈ career.feats
  · exact .inr ⟨closing, unclosed⟩
  · exact .inl ⟨opened, unlost, closing⟩

theorem Accounted.stopped (accounted : career.Accounted)
    (stopped : career.elector.hasStopped = true) (opened : .opened lease ∈ career.feats) :
    .lost lease ∈ career.feats ∧ lease ∈ career.ended ∧ career.feats.count (.closing lease) = 0 ∨
      .closed lease ∈ career.feats ∧ career.feats.count (.closing lease) = 1 := by
  have phase := accounted.openly.mp (by simpa [Elector.hasStopped] using stopped)
  have free : career.elector.phase.grip = .free := by rw [phase]; rfl
  have unheld := accounted.accounts.held lease
  have ended := accounted.accounts.closing lease
  rw [free] at unheld ended
  by_cases closing : .closing lease ∈ career.feats
  · right
    have closed : .closed lease ∈ career.feats := by simpa [closing] using ended
    have once := accounted.accounts.once lease
    have called := List.count_pos_iff.mpr closing
    exact ⟨closed, by omega⟩
  · left
    have lost : .lost lease ∈ career.feats := by simpa [opened, closing] using unheld
    exact ⟨lost, accounted.lost lease lost, List.count_eq_zero.mpr closing⟩

end Career

/-! Electors that share the in-memory service, each call of which is one step. -/

namespace Deed

variable {before after : Coordinator} {elector : Elector} {signal : Signal} {lease : Lease}

theorem opens (deed : Deed before elector after signal) (live : after.isLive lease = true) :
    before.isLive lease = true ∨ elector.phase = .opening ∧ signal = .sessionOpened lease := by
  cases deed with
  | opened opening created =>
      obtain ⟨rfl, rfl⟩ := Coordinator.createSession_ok created
      rw [Coordinator.isLive_iff, List.mem_append, List.mem_singleton] at live
      rw [Coordinator.isLive_iff]
      rcases live with old | rfl
      · exact .inl old
      · exact .inr ⟨opening, rfl⟩
  | refused _ created =>
      simp only [Coordinator.createSession] at created
      split at created
      · cases created
        exact .inl live
      · simp at created
  | entered _ enlisted =>
      rw [Coordinator.enlist_ok enlisted] at live
      exact .inl live
  | @closed held => exact .inl ((before.isLive_endSession held lease).mp live).1
  | _ => exact .inl live

theorem keeps (deed : Deed before elector after signal) (tidy : before.Tidy) (now : Instant)
    (held : elector.phase.lease? = some lease) (live : after.isLive lease = true) :
    (elector.hear now signal).phase.lease? = some lease := by
  rcases Elector.hear_lease?_kept now signal held with kept | rfl | ⟨closing, failure, rfl⟩
  · exact kept
  · cases deed with
    | lost holds gone =>
        obtain rfl := Option.some.inj (held.symm.trans holds)
        have unended := (tidy.sound.live lease live).2
        exact absurd (gone.symm.trans unended) (by simp)
  · cases deed with
    | @closed ending closes =>
        have same : lease = ending := by simpa [closing] using closes
        exact absurd same ((before.isLive_endSession ending lease).mp live).2

end Deed

/-- A call of the service, or something from outside, that nothing can come between. -/
def Happening.isAtomic : Happening → Bool
  | .move _ _ _ => true
  | .start _ _ => true
  | .cancel _ => true
  | .expire _ => true
  | .failSessions _ => true
  | _ => false

def Happening.mover? : Happening → Option Nat
  | .move _ replica _ => some replica
  | _ => none

/-- Sessions that come to life belong to the elector that moves, and are not let go while they
live. -/
structure Tends (cluster next : Cluster) (mover? : Option Nat) : Prop where
  orderly : Orderly next
  service : next.coordinator.Succeeds cluster.coordinator
  opened : ∀ lease, next.coordinator.isLive lease = true →
    cluster.coordinator.isLive lease = true ∨ ∃ replica elector, mover? = some replica ∧
      next.elector? replica = some elector ∧ elector.phase.lease? = some lease
  kept : ∀ replica elector lease, cluster.elector? replica = some elector →
    elector.phase.lease? = some lease → next.coordinator.isLive lease = true →
      ∃ moved, next.elector? replica = some moved ∧ moved.phase.lease? = some lease

variable {cluster next : Cluster} {replica : Nat}

theorem Orderly.tends_perform? (orderly : Orderly cluster) {now : Instant} {move : Move}
    {events : List Event} {notices : List Notice}
    (moved : cluster.perform? now replica move = some (next, events, notices)) :
    Tends cluster next (some replica) := by
  have stride := orderly.stride_perform? moved
  obtain ⟨elector, signal, found, _, deed, electors⟩ :=
    Cluster.perform?_deed orderly.flawless moved
  have bound : replica < cluster.electors.length := (List.getElem?_eq_some_iff.mp found).1
  have changed : next.elector? replica = some (elector.hear now signal) := by
    simp [Cluster.elector?, electors, bound]
  refine ⟨stride.orderly orderly, stride.service, ?_, ?_⟩
  · intro lease live
    rcases deed.opens live with old | ⟨opening, rfl⟩
    · exact .inl old
    · refine .inr ⟨replica, _, rfl, changed, ?_⟩
      simp [Elector.hear, opening, Phase.lease?]
  · intro place other lease stood held live
    by_cases same : place = replica
    · subst same
      obtain rfl := Option.some.inj (found.symm.trans stood)
      exact ⟨_, changed, deed.keeps orderly.tidy now held live⟩
    · exact ⟨other, (stride.others place same).trans stood, held⟩

theorem Orderly.tends_modifyElector (orderly : Orderly cluster) {change : Elector → Elector}
    (stride : Stride cluster (cluster.modifyElector replica change) replica)
    (kept : ∀ elector lease, elector.phase.lease? = some lease →
      (change elector).phase.lease? = some lease) (mover? : Option Nat) :
    Tends cluster (cluster.modifyElector replica change) mover? := by
  refine ⟨stride.orderly orderly, stride.service, fun lease live => .inl live, ?_⟩
  intro place elector lease stood held _
  by_cases same : place = replica
  · refine ⟨change elector, ?_, kept elector lease held⟩
    rw [Cluster.elector?_modifyElector, if_pos same, stood, Option.map_some]
  · refine ⟨elector, ?_, held⟩
    rw [Cluster.elector?_modifyElector, if_neg same, stood]

theorem Orderly.tends_withCoordinator (orderly : Orderly cluster) {after : Coordinator}
    (stride : Stride cluster (cluster.withCoordinator after) 0)
    (live : ∀ lease, after.isLive lease = true → cluster.coordinator.isLive lease = true)
    (mover? : Option Nat) : Tends cluster (cluster.withCoordinator after) mover? :=
  ⟨stride.orderly orderly, stride.service, fun lease alive => .inl (live lease alive),
    fun _ elector _ stood held _ => ⟨elector, stood, held⟩⟩

theorem Orderly.tends (orderly : Orderly cluster) {happening : Happening}
    (atomic : happening.isAtomic = true) (happened : cluster.happen? happening = some next) :
    Tends cluster next happening.mover? := by
  cases happening with
  | move now replica move =>
      obtain ⟨⟨reached, events, notices⟩, moved, rfl⟩ := Option.map_eq_some_iff.mp happened
      exact orderly.tends_perform? moved
  | start now replica =>
      simp only [Cluster.happen?, Cluster.start, Option.some.injEq] at happened
      split at happened
      · subst happened
        exact orderly.tends_withCoordinator
          (orderly.stride_withCoordinator .kept fun _ member => member) (fun _ live => live) _
      · subst happened
        apply orderly.tends_modifyElector (orderly.stride_started now replica)
        intro elector lease held
        simpa using elector.hear_lease?_kept now .started held
  | cancel replica =>
      cases happened
      exact orderly.tends_modifyElector (orderly.stride_cancel replica) (fun _ _ held => held) _
  | expire lease =>
      cases happened
      apply orderly.tends_withCoordinator (orderly.stride_withCoordinator (.ended lease) _)
      · exact fun other live => ((Coordinator.isLive_endSession _ lease other).mp live).1
      · exact fun candidate member => Coordinator.mem_of_mem_endSession _ lease member
  | failSessions count =>
      cases happened
      exact orderly.tends_withCoordinator
        (orderly.stride_withCoordinator (.failing count) fun _ member => member)
        (fun _ live => live) _
  | _ => cases atomic

structure Estate where
  cluster : Cluster
  given : List (Nat × Lease) := []

namespace Estate

def happen? (estate : Estate) (happening : Happening) : Option Estate :=
  if happening.isAtomic then do
    let cluster ← estate.cluster.happen? happening
    let opened := cluster.coordinator.live.filter (!estate.cluster.coordinator.isLive ·)
    let given := happening.mover?.toList.flatMap fun replica => opened.map (replica, ·)
    return { cluster, given := estate.given ++ given }
  else none

def follow? (estate : Estate) (history : List Happening) : Option Estate :=
  history.foldlM happen? estate

structure Owned (estate : Estate) : Prop where
  orderly : Orderly estate.cluster
  issued : ∀ replica lease, (replica, lease) ∈ estate.given →
    lease < estate.cluster.coordinator.nextLease
  held : ∀ replica lease, (replica, lease) ∈ estate.given →
    estate.cluster.coordinator.isLive lease = true → ∃ elector,
      estate.cluster.elector? replica = some elector ∧ elector.phase.lease? = some lease
  all : ∀ lease, estate.cluster.coordinator.isLive lease = true →
    ∃ replica, (replica, lease) ∈ estate.given

variable {estate next : Estate}

theorem Owned.happen? (owned : estate.Owned) {happening : Happening}
    (happened : estate.happen? happening = some next) : next.Owned := by
  simp only [Estate.happen?, Option.ite_none_right_eq_some, bind, Option.bind_eq_some_iff, pure,
    Option.some.injEq] at happened
  obtain ⟨atomic, cluster, happened, rfl⟩ := happened
  have tends := owned.orderly.tends atomic happened
  have given (replica : Nat) (lease : Lease) :
      (replica, lease) ∈ happening.mover?.toList.flatMap (fun replica =>
        (cluster.coordinator.live.filter
          (!estate.cluster.coordinator.isLive ·)).map (replica, ·)) ↔
        happening.mover? = some replica ∧ cluster.coordinator.isLive lease = true ∧
          estate.cluster.coordinator.isLive lease = false := by
    simp [Coordinator.isLive_iff]
  refine ⟨tends.orderly, ?_, ?_, ?_⟩
  · intro replica lease member
    rcases List.mem_append.mp member with old | new
    · exact Int.lt_of_lt_of_le (owned.issued replica lease old) tends.service.issued
    · obtain ⟨_, live, _⟩ := (given replica lease).mp new
      exact (tends.orderly.tidy.sound.live lease live).1.2
  · intro replica lease member live
    rcases List.mem_append.mp member with old | new
    · have before := tends.service.live lease (owned.issued replica lease old) live
      obtain ⟨elector, stood, held⟩ := owned.held replica lease old before
      exact tends.kept replica elector lease stood held live
    · obtain ⟨mover, _, unborn⟩ := (given replica lease).mp new
      rcases tends.opened lease live with old | ⟨opener, elector, moved, found, held⟩
      · exact absurd (old.symm.trans unborn) (by simp)
      · obtain rfl := Option.some.inj (mover.symm.trans moved)
        exact ⟨elector, found, held⟩
  · intro lease live
    cases born : estate.cluster.coordinator.isLive lease with
    | true =>
        obtain ⟨replica, member⟩ := owned.all lease born
        exact ⟨replica, List.mem_append_left _ member⟩
    | false =>
        rcases tends.opened lease live with old | ⟨replica, _, mover, _⟩
        · exact absurd (old.symm.trans born) (by simp)
        · exact ⟨replica, List.mem_append_right _ ((given replica lease).mpr ⟨mover, live, born⟩)⟩

theorem Owned.stopped (owned : estate.Owned) {replica : Nat} {elector : Elector} {lease : Lease}
    (found : estate.cluster.elector? replica = some elector) (stopped : elector.hasStopped = true)
    (member : (replica, lease) ∈ estate.given) :
    estate.cluster.coordinator.isLive lease = false := by
  have phase := (owned.orderly.openly replica elector found).mp
    (by simpa [Elector.hasStopped] using stopped)
  apply Bool.eq_false_iff.mpr
  intro live
  obtain ⟨same, foundToo, held⟩ := owned.held replica lease member live
  obtain rfl := Option.some.inj (found.symm.trans foundToo)
  simp [phase, Phase.lease?] at held

theorem owned_of_follow? {electors : List Elector} (new : ∀ elector ∈ electors, elector.IsNew)
    {history : List Happening}
    (followed : ({ cluster := .ofElectors electors } : Estate).follow? history = some estate) :
    estate.Owned := by
  refine run_induction (fun _ _ _ _ happened owned => owned.happen? happened) followed ?_
  refine ⟨orderly_ofElectors new, ?_, ?_, ?_⟩
  · simp
  · simp
  · intro lease live
    cases live

end Estate

theorem no_session_left_behind :
    (∀ (candidate : String) (settings : Settings) (incidents : List Incident) (career : Career),
      Career.follow? { elector := { candidate, settings } } incidents = some career →
        (∀ lease other, career.InUse lease → career.InUse other → lease = other) ∧
        (∀ lease before after, career.feats = before ++ .campaigned lease :: after →
          .opened lease ∈ before ∧ .lost lease ∉ before ∧ .closing lease ∉ before) ∧
        (career.elector.hasStopped = true → ∀ lease, .opened lease ∈ career.feats →
          .lost lease ∈ career.feats ∧ lease ∈ career.ended ∧
              career.feats.count (.closing lease) = 0 ∨
            .closed lease ∈ career.feats ∧ career.feats.count (.closing lease) = 1)) ∧
    ∀ (electors : List Elector) (history : List Happening) (estate : Estate),
      (∀ elector ∈ electors, elector.IsNew) →
      ({ cluster := .ofElectors electors } : Estate).follow? history = some estate →
        (∀ lease, estate.cluster.coordinator.isLive lease = true →
          ∃! replica, (replica, lease) ∈ estate.given) ∧
        (∀ replica lease other, (replica, lease) ∈ estate.given →
          (replica, other) ∈ estate.given →
          estate.cluster.coordinator.isLive lease = true →
          estate.cluster.coordinator.isLive other = true → lease = other) ∧
        (∀ replica elector lease, estate.cluster.elector? replica = some elector →
          elector.hasStopped = true → (replica, lease) ∈ estate.given →
          estate.cluster.coordinator.isLive lease = false ∧
            ∀ candidate ∈ estate.cluster.coordinator.candidates, candidate.lease ≠ lease) := by
  refine ⟨?_, ?_⟩
  · intro candidate settings incidents career followed
    have accounted : career.Accounted := Career.follow?_induction
      (fun _ _ changes accounted => accounted.changes changes) followed
      (Career.start_accounted candidate settings)
    refine ⟨?_, accounted.accounts.campaigns, fun stopped lease => accounted.stopped stopped⟩
    intro lease other used usedToo
    exact Option.some.inj ((accounted.inUse used).symm.trans (accounted.inUse usedToo))
  · intro electors history estate new followed
    have owned := Estate.owned_of_follow? new followed
    refine ⟨?_, ?_, ?_⟩
    · intro lease live
      obtain ⟨replica, member⟩ := owned.all lease live
      refine ⟨replica, member, ?_⟩
      intro other memberToo
      obtain ⟨elector, found, held⟩ := owned.held replica lease member live
      obtain ⟨rival, foundToo, heldToo⟩ := owned.held other lease memberToo live
      exact owned.orderly.distinct other replica rival elector lease foundToo found heldToo held
    · intro replica lease other member memberToo live liveToo
      obtain ⟨elector, found, held⟩ := owned.held replica lease member live
      obtain ⟨same, foundToo, heldToo⟩ := owned.held replica other memberToo liveToo
      obtain rfl := Option.some.inj (found.symm.trans foundToo)
      exact Option.some.inj (held.symm.trans heldToo)
    · intro replica elector lease found stopped member
      have dead := owned.stopped found stopped member
      refine ⟨dead, ?_⟩
      rintro candidate queued rfl
      exact absurd (dead.symm.trans (owned.orderly.tidy.live candidate queued)) (by simp)

/-- One session is lost in a campaign, and the next is closed in another. -/
def upheaval : List Incident :=
  [.run 0, .hear 0 (.sessionOpened 7), .hear 0 .entered, .expire 7, .hear 1 .sessionLost,
    .hear 1 (.sessionOpened 8), .hear 1 .entered, .cancel, .hear 2 .cancelSeen,
    .hear 3 (.sessionClosed none)]

def retreat : List Happening :=
  [.start 0 0, .move 0 0 .open, .move 0 0 .enter, .cancel 0, .move 1 0 .heed, .move 1 0 .close]

theorem retreat_leaves_nothing :
    (∃ career, Career.follow? { elector := { candidate := "a" } } upheaval = some career ∧
      career.elector.hasStopped = true ∧ career.feats.count (.closing 8) = 1) ∧
    ∃ estate, ({ cluster := .ofElectors rivals } : Estate).follow? retreat = some estate ∧
      (0, 1) ∈ estate.given ∧ estate.cluster.coordinator.isLive 1 = false := by
  refine ⟨?_, ?_⟩
  · obtain ⟨career, followed, stopped, opened, unlost⟩ : ∃ career,
        Career.follow? { elector := { candidate := "a" } } upheaval = some career ∧
          career.elector.hasStopped = true ∧ .opened 8 ∈ career.feats ∧
            .lost 8 ∉ career.feats := ⟨_, rfl, rfl, by decide, by decide⟩
    refine ⟨career, followed, stopped, ?_⟩
    have settled := (no_session_left_behind.1 _ _ _ _ followed).2.2 stopped 8 opened
    exact (settled.resolve_left fun lost => unlost lost.1).2
  · have new : ∀ elector ∈ rivals, elector.IsNew := by simp [rivals, Elector.IsNew]
    obtain ⟨estate, followed, given, elector, found, stopped⟩ : ∃ estate,
        ({ cluster := .ofElectors rivals } : Estate).follow? retreat = some estate ∧
          (0, 1) ∈ estate.given ∧ ∃ elector, estate.cluster.elector? 0 = some elector ∧
            elector.hasStopped = true := ⟨_, rfl, by decide, _, rfl, rfl⟩
    refine ⟨estate, followed, given, ?_⟩
    exact ((no_session_left_behind.2 _ _ _ new followed).2.2 0 elector 1 found stopped given).1

end Rota.Election
