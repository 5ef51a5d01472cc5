import Rota.Proofs.Election.Settling

/-!
Coming to rest. A chosen move leaves the electors less to do; where none is left, what can still
happen is that a waiting call looks at a queue that does not change any more. Main statement: from
every state the electors come to rest by themselves, before any time has passed.
-/

namespace Rota.Election

/-- How many looks at a queue that does not change a call is away from its sleep. -/
def Call.lag (version : Nat) (call : Call) : Nat :=
  match call.phase with
  | .subscribing => 2
  | .checking seen => if seen = version then 1 else 3
  | .parked seen => if seen = version then 0 else 2
  | _ => 0

theorem Call.IsAwake.lag_lt {coordinator later : Coordinator} {call next : Call}
    (awake : call.IsAwake coordinator) (stepped : call.step? coordinator = some (later, next))
    (unwon : next.phase ≠ .won) (unfailed : ∀ error, next.phase ≠ .failed error) :
    next.lag coordinator.version < call.lag coordinator.version := by
  cases Call.step?_stepped stepped with
  | entered entering => simp [IsAwake, entering] at awake
  | announced announcing => simp [IsAwake, announcing] at awake
  | subscribed subscribing => simp [lag, subscribing]
  | won => exact absurd rfl unwon
  | @parked seen checking =>
      by_cases current : seen = coordinator.version <;> simp [lag, checking, current]
  | @woken seen parked changed => simp [lag, parked, changed.symm]
  | failed => exact absurd rfl (unfailed _)

/-- An elector that is under way, and has no move to choose, has none that it could make. -/
theorem Cluster.act_eq_none_of_choice {cluster : Cluster} {now : Instant} {elector : Elector}
    (rests : cluster.choice now elector = none) (started : elector.phase ≠ .idle)
    (unstopped : elector.phase ≠ .stopped) (move : Move) :
    cluster.act now elector move = none := by
  cases phase : elector.phase <;> simp only [choice, phase] at rests <;>
    cases move <;> simp_all [act] <;> grind

/-- What an elector does by itself at an instant. -/
inductive Occasion.IsOwn (now : Instant) : Occasion → Prop
  | move (replica : Nat) (move : Move) : IsOwn now (.move now replica move)
  | attend (replica : Nat) : IsOwn now (.attend now replica)

namespace Assembly

/-- The looks that the waiting calls are away from their sleep, taken together. -/
def lag (assembly : Assembly) : Nat :=
  ((List.range assembly.cluster.electors.length).map fun replica =>
    ((Rows.find? replica assembly.calls).map
      (Call.lag assembly.cluster.coordinator.version)).getD 0).sum

variable {assembly next : Assembly} {now : Instant} {replica : Nat} {elector : Elector}

theorem lag_put {call looked : Call} (found : assembly.cluster.elector? replica = some elector)
    (called : Rows.find? replica assembly.calls = some call)
    (less : looked.lag assembly.cluster.coordinator.version <
      call.lag assembly.cluster.coordinator.version) :
    ({ assembly with calls := Rows.put replica looked assembly.calls } : Assembly).lag <
      assembly.lag := by
  have bound : replica < assembly.cluster.electors.length :=
    (List.getElem?_eq_some_iff.mp found).1
  apply List.sum_lt_sum
  · intro other _
    by_cases same : other = replica
    · subst same
      rw [Rows.find?_put_self, called]
      exact Nat.le_of_lt less
    · rw [Rows.find?_put_of_ne _ _ same]
  · refine ⟨replica, List.mem_range.mpr bound, ?_⟩
    rw [Rows.find?_put_self, called]
    exact less

/-- A call that looks at the queue, and does not return, is nearer to its sleep. -/
theorem Sound.looks (sound : assembly.Sound) {coordinator : Coordinator} {call looked : Call}
    (found : assembly.cluster.elector? replica = some elector)
    (waits : elector.phase = .waiting call.lease)
    (called : Rows.find? replica assembly.calls = some call)
    (stepped : call.step? assembly.cluster.coordinator = some (coordinator, looked))
    (unwon : looked.phase ≠ .won) (unfailed : ∀ error, looked.phase ≠ .failed error) :
    ∃ next, assembly.happen? (.attend now replica) = some next ∧
      next.cluster = assembly.cluster ∧ next.lag < assembly.lag := by
  obtain ⟨other, calledToo, _, _, awake⟩ := sound.awake replica elector call.lease found waits
  obtain rfl := Option.some.inj (called.symm.trans calledToo)
  refine ⟨{ assembly with calls := Rows.put replica looked assembly.calls }, ?_, rfl,
    lag_put found called (awake.lag_lt stepped unwon unfailed)⟩
  simp only [Assembly.happen?, attend?, found, called, waits, stepped, bind, Option.bind_some,
    if_true]

/-- The assembly can make the move that its cluster makes next, and has less to do then. -/
theorem moves_next (regular : Regular assembly.cluster) {move : Move}
    (chosen : assembly.cluster.nextMove now = some (replica, move)) :
    ∃ next, assembly.move? now replica move = some next ∧ Regular next.cluster ∧
      next.cluster.potential < assembly.cluster.potential := by
  obtain ⟨cluster, events, notices, moved, later, less⟩ := regular.nextMove chosen
  have going : ∃ next, assembly.move? now replica move = some next ∧ next.cluster = cluster := by
    simp only [move?, moved, bind, Option.bind_some, pure]
    exact ⟨_, rfl, rfl⟩
  obtain ⟨next, moves, rfl⟩ := going
  exact ⟨next, moves, later, less⟩

/-- Something that the electors do by themselves leaves less to do, or as much and fewer looks. -/
def GoesOn (assembly : Assembly) (now : Instant) : Prop :=
  ∃ occasion next, Occasion.IsOwn now occasion ∧ assembly.happen? occasion = some next ∧
    Regular next.cluster ∧ (next.cluster.potential < assembly.cluster.potential ∨
      next.cluster = assembly.cluster ∧ next.lag < assembly.lag)

theorem Sound.goes_on_chosen (sound : assembly.Sound) (regular : Regular assembly.cluster)
    {move : Move} (chosen : assembly.cluster.nextMove now = some (replica, move)) :
    assembly.GoesOn now := by
  obtain ⟨elector, found, choice⟩ := Cluster.nextMove_eq_some chosen
  obtain ⟨_, unrefused, waiting⟩ := choice_cases choice
  obtain ⟨next, moved, later, less⟩ := moves_next regular chosen
  by_cases won : move = .win
  · -- The elector may win only in its call, which looks at the queue before it returns.
    subst won
    obtain ⟨lease, waits, unended, front⟩ := waiting rfl
    obtain ⟨call, called, key, rfl, awake⟩ := sound.awake replica elector lease found waits
    obtain ⟨phase, stepped, went⟩ := awake.goes_on unended (key ▸ front)
    rcases went with rfl | ⟨rfl, _⟩
    · refine ⟨.attend now replica, next, .attend replica, ?_, later, .inl less⟩
      simp [Assembly.happen?, attend?, found, called, waits, stepped, moved]
    · obtain ⟨looked, attended, same, nearer⟩ :=
        sound.looks found waits called stepped (by simp) (by simp)
      exact ⟨_, looked, .attend replica, attended, same ▸ regular, .inr ⟨same, nearer⟩⟩
  · refine ⟨.move now replica move, next, .move replica move, ?_, later, .inl less⟩
    simp [Assembly.happen?, won, unrefused, moved]

theorem choice_eq_none (regular : Regular assembly.cluster)
    (unchosen : assembly.cluster.nextMove now = none)
    (found : assembly.cluster.elector? replica = some elector) :
    assembly.cluster.choice now elector = none :=
  Cluster.nextMove_eq_none (regular.turns replica (List.getElem?_eq_some_iff.mp found).1)
    unchosen found

/-- Where no move is to be chosen, a call does not return when it looks. -/
theorem Sound.goes_on_attended (sound : assembly.Sound) (regular : Regular assembly.cluster)
    (unchosen : assembly.cluster.nextMove now = none)
    (attended : assembly.happen? (.attend now replica) = some next) : assembly.GoesOn now := by
  simp only [Assembly.happen?, attend?, bind, Option.bind_eq_some_iff,
    Option.ite_none_right_eq_some] at attended
  obtain ⟨elector, found, call, called, waits, ⟨coordinator, looked⟩, stepped, _⟩ := attended
  have rests := choice_eq_none regular unchosen found
  obtain ⟨other, calledToo, key, _, awake⟩ := sound.awake replica elector call.lease found waits
  obtain rfl := Option.some.inj (called.symm.trans calledToo)
  have unmoved : assembly.cluster.coordinator.hasEnded call.lease = false ∧
      assembly.cluster.coordinator.isFront call.key call.lease = false := by
    simp only [Cluster.choice, waits] at rests
    rw [key]
    grind
  have unreturned : looked.phase ≠ .won ∧ ∀ error, looked.phase ≠ .failed error := by
    cases Call.step?_stepped stepped with
    | won _ _ front => simp [unmoved.2] at front
    | failed ended => simp [unmoved.1] at ended
    | _ => simp
  obtain ⟨next, attended, same, nearer⟩ :=
    sound.looks found waits called stepped unreturned.1 unreturned.2
  exact ⟨.attend now replica, next, .attend replica, attended, same ▸ regular,
    .inr ⟨same, nearer⟩⟩

theorem isStill_of_unattended (regular : Regular assembly.cluster)
    (unchosen : assembly.cluster.nextMove now = none)
    (unattended : ∀ replica, assembly.happen? (.attend now replica) = none) :
    assembly.IsStill now := by
  refine fun replica elector found started unstopped => ⟨unattended replica, fun move => ?_⟩
  have rests := choice_eq_none regular unchosen found
  have unmoved := Cluster.act_eq_none_of_choice rests started unstopped move
  have stood : assembly.cluster.electors[replica]? = some elector := found
  simp [happen?, move?, Cluster.perform?, stood, unmoved]

/-- Where something can still happen, something does that brings the electors nearer to rest. -/
theorem Sound.goes_on (sound : assembly.Sound) (regular : Regular assembly.cluster)
    (unrest : ¬assembly.IsStill now) : assembly.GoesOn now := by
  cases chosen : assembly.cluster.nextMove now with
  | some choice => exact sound.goes_on_chosen regular chosen
  | none =>
      by_contra stuck
      apply unrest
      apply isStill_of_unattended regular chosen
      intro replica
      rw [Option.eq_none_iff_forall_ne_some]
      exact fun next attended => stuck (sound.goes_on_attended regular chosen attended)

theorem Sound.comes_to_rest (sound : assembly.Sound) (regular : Regular assembly.cluster)
    (now : Instant) : ∃ occasions last, (∀ occasion ∈ occasions, Occasion.IsOwn now occasion) ∧
      assembly.follow? occasions = some last ∧ last.IsStill now := by
  -- On what is left to do, and for as much of it on the looks that are left.
  induction left : assembly.cluster.potential using Nat.strongRecOn generalizing assembly with
  | ind bound ih =>
      induction looks : assembly.lag using Nat.strongRecOn generalizing assembly with
      | ind slack ihToo =>
          by_cases still : assembly.IsStill now
          · exact ⟨[], assembly, by simp, rfl, still⟩
          · obtain ⟨occasion, next, own, happened, later, less⟩ := sound.goes_on regular still
            have soundToo := sound.happen? happened
            have rested : ∃ occasions last,
                (∀ occasion ∈ occasions, Occasion.IsOwn now occasion) ∧
                  next.follow? occasions = some last ∧ last.IsStill now := by
              rcases less with less | ⟨same, less⟩
              · exact ih _ (left ▸ less) soundToo later rfl
              · exact ihToo _ (looks ▸ less) soundToo later (same ▸ left) rfl
            obtain ⟨occasions, last, owned, followed, still⟩ := rested
            refine ⟨occasion :: occasions, last, List.forall_mem_cons.mpr ⟨own, owned⟩, ?_, still⟩
            exact Option.bind_eq_some_iff.mpr ⟨next, happened, followed⟩

theorem regular_of_follow? {electors : List Elector} (new : ∀ elector ∈ electors, elector.IsNew)
    {history : List Occasion}
    (followed : (ofElectors electors).follow? history = some assembly) :
    Regular assembly.cluster := by
  apply run_induction ?_ followed (regular_ofElectors new)
  intro occasion _ before after happened regular
  rcases happen?_atomic happened with same | ⟨happening, atomic, _, stepped⟩
  · exact same ▸ regular
  · refine regular.happen? ?_ stepped
    cases happening <;> first | rfl | cases atomic

/-- Whatever happened to a cluster of new electors, cancellations included, they come to rest by
themselves, before any time has passed. -/
theorem exists_still {electors : List Elector} (new : ∀ elector ∈ electors, elector.IsNew)
    {history : List Occasion}
    (followed : (ofElectors electors).follow? history = some assembly) (now : Instant) :
    ∃ occasions last, (∀ occasion ∈ occasions, Occasion.IsOwn now occasion) ∧
      assembly.follow? occasions = some last ∧ last.IsStill now :=
  (sound_of_follow? new followed).comes_to_rest (regular_of_follow? new followed) now

end Assembly

end Rota.Election
