import Rota.Proofs.Election.Agreement
import Rota.Proofs.Election.Sessions
import Rota.Proofs.Election.Terms

/-!
Electors that have been told to stop. Main statement: such an elector can make its next move at
once in every phase, makes three at most when it heeds what it was told, and others can neither
make it stay nor hold it up; whoever waits at the front then can take the lead at once.
-/

namespace Rota.Election

/-- The moves that an elector has left when it heeds at once that it was told to stop. -/
def Phase.remaining : Phase → Nat
  | idle => 0
  | opening => 1
  | openPause _ => 2
  | campaigning _ => 2
  | waiting _ => 2
  | campaignPause _ _ => 3
  | elected _ => 3
  | leading _ _ => 2
  | closing _ => 1
  | stopped => 0

def Phase.parting? : Phase → Option Move
  | idle => none
  | elected _ => some .seat
  | closing _ => some .close
  | stopped => none
  | _ => some .heed

theorem Phase.remaining_le (phase : Phase) : phase.remaining ≤ 3 := by
  cases phase <;> simp [remaining]

namespace Elector

variable {elector : Elector}

theorem hear_started (started : elector.hasStarted = true) (now : Instant) :
    elector.hear now .started = elector := by
  cases phase : elector.phase <;> simp_all [hasStarted, hear]

theorem hear_hasStarted (started : elector.hasStarted = true) (now : Instant) (signal : Signal) :
    (elector.hear now signal).hasStarted = true := by
  cases phase : elector.phase <;> cases signal <;>
    simp_all [hasStarted, hear, stop, stepDown]

end Elector

namespace Cluster

variable {cluster acted : Cluster} {elector : Elector} {now : Instant} {move : Move}
  {signal : Signal}

/-- The elector does what comes first, or sees its pause over before anything else. -/
def Heeds (cluster : Cluster) (now : Instant) (elector : Elector) (move : Move) : Prop :=
  cluster.choice now elector = some move ∨ move = .resume

instance : Decidable (cluster.Heeds now elector move) := inferInstanceAs (Decidable (_ ∨ _))

theorem choice_of_cancelled (cluster : Cluster) (now : Instant)
    (cancelled : elector.cancelled = true) :
    cluster.choice now elector = elector.phase.parting? := by
  cases phase : elector.phase <;> simp [choice, phase, cancelled, Phase.parting?]

theorem Acted.remaining_lt (acts : Acted cluster elector move acted signal)
    (cancelled : elector.cancelled = true) (heeds : cluster.Heeds now elector move) :
    (elector.hear now signal).phase.remaining < elector.phase.remaining := by
  rw [Heeds, choice_of_cancelled cluster now cancelled] at heeds
  -- What an elector does when it has not been told to stop is not what comes first.
  cases acts with
  | opened opening => simp [opening, Phase.parting?] at heeds
  | refused opening => simp [opening, Phase.parting?] at heeds
  | rested resting =>
      cases phase : elector.phase <;>
        simp_all [Elector.wake?, Elector.hear, Phase.remaining]
  | entered campaigning => simp [campaigning, Phase.parting?] at heeds
  | rejected campaigning => simp [campaigning, Phase.parting?] at heeds
  | foiled campaigning => simp [campaigning, Phase.parting?] at heeds
  | won waiting => simp [waiting, Phase.parting?] at heeds
  | returned waiting => simp [waiting, Phase.parting?] at heeds
  | seated elected => simp [elected, Elector.hear, Phase.remaining]
  | lost held =>
      rcases held with phase | phase | ⟨term, phase⟩ <;> simp [phase, Phase.parting?] at heeds
  | heeded =>
      cases phase : elector.phase <;>
        simp_all [Phase.parting?, Elector.hear, Elector.stop, Elector.stepDown, Phase.remaining]
  | closed closing => simp [closing, Elector.hear, Elector.stop, Phase.remaining]
  | unclosed closing => simp [closing, Elector.hear, Elector.stop, Phase.remaining]

/-- Whatever it is about, an elector that was told to stop can make a move. -/
theorem exists_heeding (cluster : Cluster) (now : Instant) (cancelled : elector.cancelled = true)
    (started : elector.hasStarted = true) (unstopped : elector.phase ≠ .stopped) :
    ∃ move acted, cluster.Heeds now elector move ∧ move ≠ .win ∧ move ≠ .refuse ∧
      cluster.act now elector move = some acted := by
  have chosen := choice_of_cancelled cluster now cancelled
  have heeding (heeds : elector.phase.parting? = some .heed) :
      ∃ move acted, cluster.Heeds now elector move ∧ move ≠ .win ∧ move ≠ .refuse ∧
        cluster.act now elector move = some acted :=
    ⟨.heed, (cluster, .cancelSeen, []), .inl (chosen.trans heeds), by simp, by simp,
      by simp [act, cancelled]⟩
  cases phase : elector.phase with
  | idle => simp [Elector.hasStarted, phase] at started
  | elected lease =>
      exact ⟨.seat, _, .inl (chosen.trans (by rw [phase]; rfl)), by simp, by simp,
        by simp [act, phase]; rfl⟩
  | closing lease =>
      exact ⟨.close, _, .inl (chosen.trans (by rw [phase]; rfl)), by simp, by simp,
        by simp [act, phase]; rfl⟩
  | stopped => exact absurd phase unstopped
  | _ => exact heeding (by rw [phase]; rfl)

end Cluster

/-! What an occasion makes of the electors. -/

inductive Elector.Sees (elector : Elector) (mine : Prop) : Elector → Prop
  | kept : Sees elector mine elector
  | cancelled : Sees elector mine { elector with cancelled := true }
  | started (now : Instant) : Sees elector mine (elector.hear now .started)
  | heard (now : Instant) (signal : Signal) : mine → Sees elector mine (elector.hear now signal)

namespace Elector.Sees

variable {elector moved : Elector} {mine : Prop}

theorem counts (sees : elector.Sees mine moved) (counts : elector.Counts) : moved.Counts := by
  cases sees with
  | kept => exact counts
  | cancelled => exact ⟨counts.past, counts.current⟩
  | started now => exact (elector.hear_reigns now .started).counts counts
  | heard now signal => exact (elector.hear_reigns now signal).counts counts

theorem cancelled? (sees : elector.Sees mine moved) (told : elector.cancelled = true) :
    moved.cancelled = true := by
  cases sees with
  | kept => exact told
  | cancelled => rfl
  | started now => exact (elector.hear_cancelled now .started).trans told
  | heard now signal => exact (elector.hear_cancelled now signal).trans told

theorem hasStarted (sees : elector.Sees mine moved) (started : elector.hasStarted = true) :
    moved.hasStarted = true := by
  cases sees with
  | kept => exact started
  | cancelled => exact started
  | started now => exact elector.hear_hasStarted started now .started
  | heard now signal => exact elector.hear_hasStarted started now signal

theorem phase (sees : elector.Sees mine moved) (started : elector.hasStarted = true)
    (others : ¬mine) : moved.phase = elector.phase := by
  cases sees with
  | kept => rfl
  | cancelled => rfl
  | started now => rw [Elector.hear_started started]
  | heard now signal own => exact absurd own others

end Elector.Sees

theorem Cluster.perform?_sees {cluster next : Cluster} {now : Instant} {replica place : Nat}
    {move : Move} {events : List Event} {notices : List Notice} {elector : Elector}
    (moved : cluster.perform? now replica move = some (next, events, notices))
    (found : cluster.elector? place = some elector) :
    ∃ later, next.elector? place = some later ∧ elector.Sees (replica = place) later := by
  obtain ⟨mover, acted, signal, stood, _, rfl⟩ := perform?_acted moved
  have bound : replica < cluster.electors.length := (List.getElem?_eq_some_iff.mp stood).1
  by_cases same : replica = place
  · subst same
    obtain rfl := Option.some.inj (stood.symm.trans found)
    exact ⟨_, by simp [elector?, bound], .heard now signal rfl⟩
  · refine ⟨elector, ?_, .kept⟩
    simpa [elector?, same] using found

theorem Cluster.happen?_sees {cluster next : Cluster} {happening : Happening}
    (atomic : happening.isAtomic = true) (happened : cluster.happen? happening = some next)
    {place : Nat} {elector : Elector} (found : cluster.elector? place = some elector) :
    ∃ later, next.elector? place = some later ∧
      elector.Sees (happening.mover? = some place) later := by
  have changed {replica : Nat} {change : Elector → Elector}
      (sees : elector.Sees (happening.mover? = some place) (change elector)) :
      ∃ later, (cluster.modifyElector replica change).elector? place = some later ∧
        elector.Sees (happening.mover? = some place) later := by
    rw [elector?_modifyElector, found]
    split
    · exact ⟨_, rfl, sees⟩
    · exact ⟨elector, rfl, .kept⟩
  cases happening with
  | move now replica move =>
      obtain ⟨⟨reached, events, notices⟩, moved, rfl⟩ := Option.map_eq_some_iff.mp happened
      simpa [Happening.mover?] using perform?_sees moved found
  | start now replica =>
      simp only [Cluster.happen?, Cluster.start, Option.some.injEq] at happened
      split at happened
      · subst happened
        exact ⟨elector, found, .kept⟩
      · subst happened
        exact changed (.started now)
  | cancel replica =>
      cases happened
      exact changed .cancelled
  | expire lease =>
      cases happened
      exact ⟨elector, found, .kept⟩
  | failSessions count =>
      cases happened
      exact ⟨elector, found, .kept⟩
  | _ => cases atomic

namespace Assembly

variable {assembly next : Assembly} {occasion : Occasion}

theorem happen?_sees (happened : assembly.happen? occasion = some next) {place : Nat}
    {elector : Elector} (found : assembly.cluster.elector? place = some elector) :
    ∃ later, next.cluster.elector? place = some later ∧
      elector.Sees (occasion.mover? = some place) later := by
  rcases happen?_atomic happened with same | ⟨happening, atomic, mover, stepped⟩
  · exact ⟨elector, by rw [same]; exact found, .kept⟩
  · rw [← mover]
    exact Cluster.happen?_sees atomic stepped found

theorem happen?_heeds {now : Instant} {replica : Nat} {move : Move} {elector : Elector}
    (happened : assembly.happen? (.move now replica move) = some next)
    (found : assembly.cluster.elector? replica = some elector)
    (cancelled : elector.cancelled = true) (heeds : assembly.cluster.Heeds now elector move) :
    ∃ later, next.cluster.elector? replica = some later ∧
      later.phase.remaining < elector.phase.remaining := by
  simp only [happen?, Option.ite_none_left_eq_some] at happened
  obtain ⟨⟨cluster, events, notices⟩, moved, same⟩ :=
    Option.map_eq_some_iff.mp (move?_cluster happened.2)
  obtain ⟨mover, acted, signal, stood, acts, reached⟩ := Cluster.perform?_acted moved
  obtain rfl := Option.some.inj (stood.symm.trans found)
  have bound : replica < assembly.cluster.electors.length :=
    (List.getElem?_eq_some_iff.mp stood).1
  refine ⟨mover.hear now signal, ?_, acts.remaining_lt cancelled heeds⟩
  simp only at same
  simp [← same, reached, Cluster.elector?, bound]

/-! Who comes next. -/

theorem move?_hears {now : Instant} {replica : Nat} {move : Move} {elector : Elector}
    {acted : Cluster} {signal : Signal} {events : List Event}
    (found : assembly.cluster.elector? replica = some elector)
    (acting : assembly.cluster.act now elector move = some (acted, signal, events)) :
    ∃ next, assembly.move? now replica move = some next ∧
      next.cluster.elector? replica = some (elector.hear now signal) := by
  obtain ⟨next, moved⟩ := move?_of_act found acting
  refine ⟨next, moved, ?_⟩
  have stood : assembly.cluster.electors[replica]? = some elector := found
  have bound : replica < assembly.cluster.electors.length :=
    (List.getElem?_eq_some_iff.mp stood).1
  simp only [move?, Cluster.perform?, stood, acting, bind, Option.bind_some, pure,
    Option.some.injEq] at moved
  simp [← moved, Cluster.elector?, bound]

def Checks (assembly : Assembly) (replica : Nat) : Prop :=
  ∃ call seen, Rows.find? replica assembly.calls = some call ∧ call.phase = .checking seen

variable {replica : Nat} {elector : Elector} {lease : Lease}

theorem Sound.unended_of_front (sound : assembly.Sound) {key : String}
    (front : assembly.cluster.coordinator.isFront key lease = true) :
    assembly.cluster.coordinator.hasEnded lease = false := by
  rw [Coordinator.isFront_iff] at front
  obtain ⟨candidate, first, rfl⟩ := Option.map_eq_some_iff.mp front
  have queued := (List.mem_filter.mp (List.mem_of_head? first)).1
  have live := sound.orderly.tidy.live candidate queued
  exact (sound.orderly.tidy.sound.live _ live).2

/-- The call of whoever waits at the front goes on: it wins, or looks again. -/
theorem Sound.attends (sound : assembly.Sound) (now : Instant)
    (found : assembly.cluster.elector? replica = some elector)
    (waits : elector.phase = .waiting lease)
    (front : assembly.cluster.coordinator.isFront elector.key lease = true) :
    ∃ next, assembly.happen? (.attend now replica) = some next ∧
      (next.cluster.elector? replica = some { elector with phase := .elected lease } ∨
        next.cluster = assembly.cluster ∧ next.Checks replica ∧ ¬assembly.Checks replica) := by
  have unended := sound.unended_of_front front
  obtain ⟨call, called, key, rfl, awake⟩ := sound.awake replica elector lease found waits
  obtain ⟨phase, stepped, went⟩ := awake.goes_on unended (key ▸ front)
  have acting : assembly.cluster.act now elector .win = some (assembly.cluster, .won, []) := by
    simp [Cluster.act, waits, unended, front]
  obtain ⟨won, wins, elected⟩ := move?_hears found acting
  rcases went with rfl | ⟨rfl, unchecked⟩
  · refine ⟨won, ?_, .inl ?_⟩
    · simp [Assembly.happen?, attend?, found, called, waits, stepped, wins]
    · simpa [Elector.hear, waits] using elected
  · let looked : Call := { call with phase := .checking assembly.cluster.coordinator.version }
    refine ⟨{ assembly with calls := Rows.put replica looked assembly.calls }, ?_,
      .inr ⟨rfl, ⟨looked, _, Rows.find?_put_self _ _ _, rfl⟩, ?_⟩⟩
    · simp [Assembly.happen?, attend?, found, called, waits, stepped, looked]
    · rintro ⟨other, seen, calledToo, checking⟩
      obtain rfl := Option.some.inj (called.symm.trans calledToo)
      exact unchecked seen checking

/-- The occasions of one elector bring it to the head of its election. -/
def Rises (assembly : Assembly) (replica : Nat) : Prop :=
  ∃ occasions final, (∀ occasion ∈ occasions, occasion.mover? = some replica) ∧
    assembly.follow? occasions = some final ∧ final.cluster.isLeader replica = true

theorem Rises.after (rises : next.Rises replica) (happened : assembly.happen? occasion = some next)
    (own : occasion.mover? = some replica) : assembly.Rises replica := by
  obtain ⟨occasions, final, owned, followed, leads⟩ := rises
  refine ⟨occasion :: occasions, final, List.forall_mem_cons.mpr ⟨own, owned⟩, ?_, leads⟩
  exact Option.bind_eq_some_iff.mpr ⟨next, happened, followed⟩

theorem rises_of_elected (found : assembly.cluster.elector? replica = some elector)
    (elected : elector.phase = .elected lease) (now : Instant) : assembly.Rises replica := by
  have acting : assembly.cluster.act now elector .seat = some (assembly.cluster, .seated, []) := by
    simp [Cluster.act, elected]
  obtain ⟨next, moved, stands⟩ := move?_hears found acting
  have seated : assembly.happen? (.move now replica .seat) = some next := by simp [happen?, moved]
  have leads : next.cluster.isLeader replica = true := by
    simp [Cluster.isLeader, stands, Elector.hear, elected, Elector.isLeader]
  exact Rises.after ⟨[], next, by simp, rfl, leads⟩ seated rfl

/-- Whoever waits at the front can take the lead at once, and needs nobody else for it. -/
theorem Sound.rises (sound : assembly.Sound) (now : Instant)
    (found : assembly.cluster.elector? replica = some elector)
    (waits : elector.phase = .waiting lease)
    (front : assembly.cluster.coordinator.isFront elector.key lease = true) :
    assembly.Rises replica := by
  have elected {next : Assembly}
      (stands : next.cluster.elector? replica = some { elector with phase := .elected lease }) :
      next.Rises replica := rises_of_elected stands rfl now
  obtain ⟨first, attended, stands | ⟨same, checks, _⟩⟩ := sound.attends now found waits front
  · exact (elected stands).after attended rfl
  · -- The call looks at a queue that has not changed since.
    have later : first.Sound := sound.happen? attended
    rw [← same] at found front
    obtain ⟨second, attendedToo, stands | ⟨_, _, unchecked⟩⟩ :=
      later.attends now found waits front
    · exact ((elected stands).after attendedToo rfl).after attended rfl
    · exact absurd checks unchecked

end Assembly

namespace Estate

/-- Sessions that have come to life belong to the elector that moved. -/
def gain (estate : Estate) (cluster : Cluster) (mover? : Option Nat) : Estate :=
  let opened := cluster.coordinator.live.filter (!estate.cluster.coordinator.isLive ·)
  { cluster
    given := estate.given ++ mover?.toList.flatMap fun replica => opened.map (replica, ·) }

theorem gain_self (estate : Estate) (mover? : Option Nat) :
    estate.gain estate.cluster mover? = estate := by
  have none : estate.cluster.coordinator.live.filter
      (!estate.cluster.coordinator.isLive ·) = [] := by
    simp [List.filter_eq_nil_iff, Coordinator.isLive_iff]
  cases mover? <;> simp [gain, none]

theorem Owned.gain {estate : Estate} (owned : estate.Owned) {assembly next : Assembly}
    (same : assembly.cluster = estate.cluster) {occasion : Occasion}
    (happened : assembly.happen? occasion = some next) :
    (estate.gain next.cluster occasion.mover?).Owned := by
  rcases Assembly.happen?_atomic happened with kept | ⟨happening, atomic, mover, stepped⟩
  · rw [kept.trans same, gain_self]
    exact owned
  · rw [same] at stepped
    have happens : estate.happen? happening =
        some (estate.gain next.cluster occasion.mover?) := by
      simp [Estate.happen?, atomic, stepped, mover, Estate.gain]
    exact owned.happen? happens

end Estate

end Rota.Election
