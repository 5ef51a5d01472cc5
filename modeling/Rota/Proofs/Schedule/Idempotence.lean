import Rota.Proofs.Schedule.Accounting

/-!
Passes that are repeated, reordered or spared a definition. Main statement: a pass does what it
reports; the order of its definitions makes no difference, nor does one that is refused to the
others; and another pass over the same definitions finds nothing left to do.
-/

namespace Rota.Schedule

/-- Whether an expression can be taken does not depend on when it comes. -/
def Mechanism.Steady {σ δ : Type} (mechanism : Mechanism σ δ) : Prop :=
  ∀ expression now later, (Timetable.plan mechanism now expression).isOk =
    (Timetable.plan mechanism later expression).isOk

/-- What goes on beside the turns of the definitions. -/
def Round.beside (round : Round) : List Aside :=
  round.definitions.flatMap fun definition => round.meanwhile definition.id

theorem Round.beside_atOnce (ticket : Nat) (now : Wall) (definitions : List Definition) :
    (atOnce ticket now definitions).beside = [] := by
  simp [beside, atOnce]

namespace Roster

variable {σ : Type} {mechanism : Mechanism σ Duty} {roster next : Roster σ}
  {definitions : List Definition} {definition : Definition} {now : Wall} {round : Round}
  {id other : TaskId}

/-! Refusals last. -/

theorem stopped_of_atTurn (distinct : (round.definitions.map Definition.id).Nodup)
    (member : definition ∈ round.definitions)
    (stopped : (roster.atTurn mechanism round definition.id).engine.stopped = true) :
    (roster.reconcileAmid mechanism round).roster.engine.stopped = true := by
  obtain ⟨before, after, split⟩ := List.append_of_mem member
  rw [split, List.map_append, List.map_cons, List.nodup_append] at distinct
  have apart : ∀ other ∈ before, other.id ≠ definition.id := fun other member =>
    distinct.2.2 other.id (List.mem_map_of_mem member) definition.id List.mem_cons_self
  rw [atTurn_of_split split apart] at stopped
  have follows (progress : Progress σ) (definition : Definition)
      (already : progress.roster.engine.stopped = true) :
      (progress.follow mechanism (round.clock definition.id) definition).roster.engine.stopped =
        true := (progress.follow_keeps mechanism _ definition).stopped.trans already
  refine Progress.foldl_holds (fun next => next.engine.stopped = true) ?_ ?_
  · intro id _ progress already
    exact (Progress.drop_keeps _ id).stopped.trans (asides_stopped already _)
  · rw [split, followRound, List.foldl_append, List.foldl_cons]
    refine Progress.foldl_holds (fun next => next.engine.stopped = true) ?_ ?_
    · exact fun other _ progress already => follows _ other (asides_stopped already _)
    · exact follows _ definition stopped

/-- A definition that was refused when it was its turn is refused for good. -/
theorem refused_again (steady : mechanism.Steady)
    (distinct : (round.definitions.map Definition.id).Nodup)
    (member : definition ∈ round.definitions)
    (refused : roster.admitsAtTurn mechanism round definition = false)
    (later : (roster.reconcileAmid mechanism round).roster.engine.stopped = true →
      next.engine.stopped = true) (now : Wall) :
    next.admits mechanism now definition = false := by
  rw [admitsAtTurn, admits_eq, Bool.and_eq_false_iff, Bool.not_eq_false'] at refused
  rw [admits_eq, Bool.and_eq_false_iff, Bool.not_eq_false']
  -- An engine that has stopped does not start again, and an invalid expression stays invalid.
  rcases refused with stopped | invalid
  · exact .inl (later (stopped_of_atTurn distinct member stopped))
  · exact .inr ((steady _ _ _).trans invalid)

/-- A round whose definitions ask for what is there, or are refused, changes nothing itself. -/
theorem followRound_idle {followed : List Definition}
    (gone : ∀ definition ∈ followed, definition.enabled = false →
      roster.isRegistered definition.id = false)
    (refused : ∀ definition ∈ followed, definition.enabled = true →
      roster.isRegistered definition.id = false → ∀ (next : Roster σ) now,
        (roster.engine.stopped = true → next.engine.stopped = true) →
          next.admits mechanism now definition = false) :
    (roster.followRound mechanism round followed).roster =
      (followed.flatMap fun definition => round.meanwhile definition.id).foldl
        (Roster.aside mechanism) { roster with applied := round.ticket } := by
  induction followed using List.reverseRecOn with
  | nil => rfl
  | append_singleton followed definition ih =>
      have before := ih (fun other member => gone other (List.mem_append_left _ member))
        fun other member => refused other (List.mem_append_left _ member)
      have last : definition ∈ followed ++ [definition] :=
        List.mem_append_right _ List.mem_cons_self
      -- When it is the turn of the last definition, nothing has happened but the asides.
      have awaited : ((roster.followRound mechanism round followed).await mechanism round
          definition.id).roster = ((followed ++ [definition]).flatMap fun definition =>
            round.meanwhile definition.id).foldl (Roster.aside mechanism)
              { roster with applied := round.ticket } := by
        rw [Progress.await, before, List.flatMap_append, List.foldl_append]
        simp
      rw [← awaited, followRound, List.foldl_append]
      have entries : ((roster.followRound mechanism round followed).await mechanism round
          definition.id).roster.entries = roster.entries := awaited ▸ asides_entries _
      have same : ((roster.followRound mechanism round followed).await mechanism round
          definition.id).roster.isRegistered definition.id = roster.isRegistered definition.id :=
        congrArg (Option.isSome <| Rows.find? definition.id ·) entries
      refine Progress.roster_follow_idle (fun disabled => ?_) (fun enabled absent => ?_)
      · exact same.trans (gone definition last disabled)
      · refine refused definition last enabled (same.symm.trans absent) _ _ fun stopped => ?_
        have begun : { roster with applied := round.ticket }.engine.stopped = true := stopped
        exact awaited ▸ asides_stopped begun _

theorem reconcileAmid_idle
    (gone : ∀ definition ∈ round.definitions, definition.enabled = false →
      roster.isRegistered definition.id = false)
    (refused : ∀ definition ∈ round.definitions, definition.enabled = true →
      roster.isRegistered definition.id = false → ∀ (next : Roster σ) now,
        (roster.engine.stopped = true → next.engine.stopped = true) →
          next.admits mechanism now definition = false)
    (stored : ∀ id ∈ roster.registeredIds, id ∈ round.definitions.map Definition.id) :
    (roster.reconcileAmid mechanism round).roster =
      round.beside.foldl (Roster.aside mechanism) { roster with applied := round.ticket } := by
  have followed : (roster.followRound mechanism round round.definitions).roster = _ :=
    followRound_idle gone refused
  have entries : (roster.followRound mechanism round round.definitions).roster.entries =
      roster.entries := followed ▸ asides_entries _
  have nothing : ((roster.followRound mechanism round round.definitions).roster.registeredIds.filter
      fun id => !(round.definitions.map Definition.id).contains id) = [] := by
    rw [registeredIds, entries, List.filter_eq_nil_iff]
    intro id member
    simpa using stored id member
  rw [reconcileAmid, nothing]
  exact followed

theorem atTurn_stopped (stopped : roster.engine.stopped = true) (round : Round) (id : TaskId) :
    (roster.atTurn mechanism round id).engine.stopped = true := by
  refine asides_stopped (Progress.foldl_holds (fun next => next.engine.stopped = true) ?_ ?_) _
  · intro other _ progress already
    exact (Progress.follow_keeps _ mechanism _ other).stopped.trans (asides_stopped already _)
  · exact stopped

section

variable {acts : List Aside}

theorem Paired.isRegistered_after (paired : roster.Paired)
    (distinct : (round.definitions.map Definition.id).Nodup)
    (member : definition ∈ round.definitions) :
    (acts.foldl (Roster.aside mechanism)
        (roster.reconcileAmid mechanism round).roster).isRegistered definition.id =
      (definition.enabled && (roster.isRegistered definition.id ||
        roster.admitsAtTurn mechanism round definition)) := by
  have accounts : roster.Accounts round.definitions (roster.admitsAtTurn mechanism round)
      (roster.reconcileAmid mechanism round) := paired.accounts distinct
  rw [← accounts.isRegistered paired (paired.reconcileAmid round) distinct member]
  exact congrArg (Option.isSome <| Rows.find? definition.id ·) (asides_entries acts)

/-- What is asked for after a round is what the round was refused. -/
theorem Paired.offers_after (paired : roster.Paired)
    (distinct : (round.definitions.map Definition.id).Nodup) :
    (acts.foldl (Roster.aside mechanism) (roster.reconcileAmid mechanism round).roster).offers
        round.definitions =
      (roster.offers round.definitions).filter fun definition =>
        !roster.admitsAtTurn mechanism round definition := by
  rw [Roster.offers, Roster.offers, List.filter_filter]
  refine List.filter_congr fun definition member => ?_
  rw [paired.isRegistered_after distinct member]
  cases definition.enabled <;> cases roster.isRegistered definition.id <;>
    cases roster.admitsAtTurn mechanism round definition <;> rfl

theorem Paired.refused_after (paired : roster.Paired) (steady : mechanism.Steady)
    (distinct : (round.definitions.map Definition.id).Nodup)
    (member : definition ∈ round.definitions) (wanted : definition.enabled = true)
    (absent : (acts.foldl (Roster.aside mechanism)
      (roster.reconcileAmid mechanism round).roster).isRegistered definition.id = false)
    (later : (acts.foldl (Roster.aside mechanism)
        (roster.reconcileAmid mechanism round).roster).engine.stopped = true →
      next.engine.stopped = true) (now : Wall) :
    next.admits mechanism now definition = false := by
  rw [paired.isRegistered_after distinct member, wanted, Bool.true_and,
    Bool.or_eq_false_iff] at absent
  exact refused_again steady distinct member absent.2
    (fun stopped => later (asides_stopped stopped acts)) now

end

/-- Another round over the same definitions changes nothing, whatever goes on before it and beside
it, and reports the same refusals. -/
theorem Paired.again (paired : roster.Paired) (steady : mechanism.Steady)
    (distinct : (round.definitions.map Definition.id).Nodup) (acts : List Aside) {again : Round}
    (same : again.definitions = round.definitions) :
    let first := roster.reconcileAmid mechanism round
    let between := acts.foldl (Roster.aside mechanism) first.roster
    let second := between.reconcileAmid mechanism again
    second.summary = { failed := first.summary.failed } ∧
      second.roster = again.beside.foldl (Roster.aside mechanism)
        { between with applied := again.ticket } := by
  intro first between second
  have accounts : roster.Accounts round.definitions (roster.admitsAtTurn mechanism round) first :=
    paired.accounts distinct
  have accountsToo : between.Accounts round.definitions (between.admitsAtTurn mechanism again)
      second := same ▸ ((paired.reconcileAmid round).asides acts).accounts (same ▸ distinct)
  have ids : between.registeredIds = first.roster.registeredIds :=
    congrArg Rows.keys (asides_entries acts)
  have enabled (id : TaskId) (registered : id ∈ between.registeredIds) :
      id ∈ Definition.enabledIds round.definitions := accounts.enabled (ids ▸ registered)
  have offers : between.offers round.definitions = _ := paired.offers_after distinct
  have refused : ∀ definition ∈ between.offers round.definitions,
      between.admitsAtTurn mechanism again definition = false := by
    intro definition offered
    obtain ⟨member, wanted, absent⟩ := mem_offers.mp offered
    exact paired.refused_after steady distinct member wanted absent
      (fun stopped => atTurn_stopped stopped again _) _
  constructor
  · refine Summary.eq_of_counts ?_ ?_ ?_ accountsToo.fresh
    · rw [accountsToo.registered, List.countP_eq_zero]
      simpa using refused
    · rw [accountsToo.unregistered, List.length_eq_zero_iff, leavers, List.filter_eq_nil_iff]
      simpa using enabled
    · rw [accountsToo.failed, accounts.failed,
        List.countP_eq_length.mpr (by simpa using refused), offers,
        List.countP_eq_length_filter]
  · refine reconcileAmid_idle ?_ ?_ ?_
    · intro definition member disabled
      rw [paired.isRegistered_after distinct (same ▸ member), disabled, Bool.false_and]
    · exact fun definition member wanted absent _ now later =>
        paired.refused_after steady distinct (same ▸ member) wanted absent later now
    · intro id registered
      obtain ⟨definition, member, _, rfl⟩ := mem_enabledIds.mp (enabled id registered)
      exact List.mem_map_of_mem (same ▸ member)

/-! A pass that nothing interrupts. -/

theorem followRound_atOnce_stopped {ticket : Nat} {followed : List Definition} :
    (roster.followRound mechanism (.atOnce ticket now definitions) followed).roster.engine.stopped =
      roster.engine.stopped :=
  (Progress.foldl_keeps (fun progress definition =>
    progress.follow_keeps mechanism now definition) followed _).stopped

theorem admitsAtTurn_atOnce {ticket : Nat} :
    roster.admitsAtTurn mechanism (.atOnce ticket now definitions) =
      roster.admits mechanism now := by
  funext definition
  rw [admitsAtTurn, admits_eq, admits_eq]
  congr 2
  exact followRound_atOnce_stopped

theorem Paired.reconcile (paired : roster.Paired) (now : Wall) (definitions : List Definition) :
    (roster.reconcile mechanism now definitions).roster.Paired :=
  paired.reconcileAmid (.atOnce roster.applied now definitions)

theorem Paired.reconcile_accounts (paired : roster.Paired)
    (distinct : (definitions.map Definition.id).Nodup) (now : Wall) :
    roster.Accounts definitions (roster.admits mechanism now)
      (roster.reconcile mechanism now definitions) := by
  have accounts : roster.Accounts definitions _ (roster.reconcile mechanism now definitions) :=
    @Paired.accounts _ mechanism _ (.atOnce roster.applied now definitions) paired distinct
  rw [admitsAtTurn_atOnce] at accounts
  exact accounts

/-- The entry of a task. -/
structure Holds (roster : Roster σ) (id : TaskId) (number : EntryId) (entry : Entry σ Duty) :
    Prop where
  paired : roster.Paired
  listed : Rows.find? id roster.entries = some number
  found : roster.engine.timetable.find? number = some entry

section

variable {progress : Progress σ} {number : EntryId} {entry : Entry σ Duty}

theorem Holds.drop (held : progress.roster.Holds id number entry) (differ : id ≠ other) :
    (progress.drop other).roster.Holds id number entry := by
  refine ⟨held.paired.drop other, ?_, ?_⟩
  · rw [Progress.find?_drop held.paired.ascending, if_neg differ]
    exact held.listed
  · cases leaving : Rows.find? other progress.roster.entries with
    | none =>
        simp only [Progress.drop, unregister, leaving]
        exact held.found
    | some freed =>
        simp only [Progress.drop, unregister, leaving]
        have apart : number ≠ freed := fun same =>
          differ (held.paired.injective (same ▸ held.listed) leaving)
        rw [Engine.remove_timetable, Timetable.find?_remove, if_neg apart]
        exact held.found

theorem Holds.follow (held : progress.roster.Holds id number entry)
    (wanted : definition.id = id → definition.enabled = true) :
    (progress.follow mechanism now definition).roster.Holds id number entry := by
  have paired : (progress.follow mechanism now definition).roster.Paired :=
    held.paired.follow now definition
  have followed := progress.follow_followed mechanism now definition
  generalize progress.follow mechanism now definition = result at followed paired ⊢
  cases followed with
  | dropped disabled =>
      exact held.drop fun same => by simp [wanted same.symm] at disabled
  | registered enabled absent added =>
      obtain ⟨_, timetable, taken, rfl⟩ := Engine.add_eq_ok_iff.mp added
      have differ : id ≠ definition.id := by
        rintro rfl
        simp [isRegistered, held.listed] at absent
      have duty : progress.roster.engine.timetable.duty? number = some entry.duty := by
        rw [Timetable.duty?, held.found, Option.map_some]
      refine ⟨paired, (Rows.find?_put_of_ne _ _ differ).trans held.listed, ?_⟩
      dsimp only
      rw [Engine.rouse_timetable,
        Timetable.find?_add_of_ne taken (held.paired.fresh taken duty)]
      exact held.found
  | kept => exact held
  | refused => exact ⟨paired, held.listed, held.found⟩

end

/-- A task that is enabled and has an entry keeps it just as it is. -/
theorem Holds.reconcile {number : EntryId} {entry : Entry σ Duty}
    (held : roster.Holds id number entry) (distinct : (definitions.map Definition.id).Nodup)
    (wanted : id ∈ Definition.enabledIds definitions) :
    (roster.reconcile mechanism now definitions).roster.Holds id number entry := by
  obtain ⟨definition, member, enabled, rfl⟩ := mem_enabledIds.mp wanted
  refine Progress.foldl_holds (fun next => next.Holds definition.id number entry) ?_ ?_
  · intro other leaving progress before
    refine before.drop ?_
    rintro rfl
    have stored := List.mem_map_of_mem (f := Definition.id) member
    simp [stored, -List.mem_map] at leaving
  · refine Progress.foldl_holds (fun next => next.Holds definition.id number entry) ?_ held
    intro other offered progress before
    refine before.follow fun same => ?_
    rw [eq_of_id_eq distinct offered member same]
    exact enabled

/-! A definition that is refused. -/

section

variable {first second : Progress σ}

theorem roster_drop_congr (same : first.roster = second.roster) :
    (first.drop id).roster = (second.drop id).roster := by
  simp only [Progress.drop, same]

theorem roster_follow_congr (same : first.roster = second.roster) :
    (first.follow mechanism now definition).roster =
      (second.follow mechanism now definition).roster := by
  simp only [Progress.follow, same]
  split
  · exact roster_drop_congr same
  · split <;> rfl

theorem roster_foldl_congr {α : Type} {step : Progress σ → α → Progress σ}
    (congruent : ∀ (first second : Progress σ) (item : α), first.roster = second.roster →
      (step first item).roster = (step second item).roster) (items : List α)
    (same : first.roster = second.roster) :
    (items.foldl step first).roster = (items.foldl step second).roster := by
  induction items generalizing first second with
  | nil => exact same
  | cons item items ih => exact ih (congruent _ _ item same)

variable {before after : List Definition}

theorem Paired.follow_refused_roster (paired : roster.Paired)
    (distinct : ((before ++ definition :: after).map Definition.id).Nodup)
    (absent : roster.isRegistered definition.id = false)
    (refused : roster.admits mechanism now definition = false) :
    ((before ++ definition :: after).foldl (Progress.follow mechanism now) { roster }).roster =
      ((before ++ after).foldl (Progress.follow mechanism now) { roster }).roster := by
  let round := Round.atOnce roster.applied now (before ++ definition :: after)
  have tallied : roster.Tallied (roster.admitsAtTurn mechanism round) before
      (before.foldl (Progress.follow mechanism now) { roster }) :=
    tallied_followRound paired distinct rfl
  have fresh : definition.id ∉ before.map Definition.id := by
    rw [List.map_append, List.map_cons, List.nodup_append] at distinct
    exact fun member => distinct.2.2 _ member _ List.mem_cons_self rfl
  have stopped : (before.foldl (Progress.follow mechanism now) { roster }).roster.engine.stopped =
      roster.engine.stopped :=
    @followRound_atOnce_stopped _ _ _ (before ++ definition :: after) _ _ before
  rw [List.foldl_append, List.foldl_append, List.foldl_cons]
  refine roster_foldl_congr ?_ after (Progress.roster_follow_idle (fun _ => ?_) fun _ _ => ?_)
  · exact fun _ _ _ same => roster_follow_congr same
  · exact (congrArg Option.isSome (tallied.untouched _ fresh)).trans absent
  · rw [admits_eq] at refused ⊢
    rw [stopped, refused]

/-- Without the definitions that are refused a pass leaves the same roster. -/
theorem Paired.reconcile_refused_roster (paired : roster.Paired)
    (distinct : ((before ++ definition :: after).map Definition.id).Nodup)
    (absent : roster.isRegistered definition.id = false)
    (refused : roster.admits mechanism now definition = false) :
    (roster.reconcile mechanism now (before ++ definition :: after)).roster =
      (roster.reconcile mechanism now (before ++ after)).roster := by
  let round := Round.atOnce roster.applied now (before ++ definition :: after)
  let passed := (before ++ definition :: after).foldl (Progress.follow mechanism now) { roster }
  have tallied : roster.Tallied (roster.admitsAtTurn mechanism round)
      (before ++ definition :: after) passed :=
    tallied_followRound paired distinct (List.append_nil _).symm
  have followed : passed.roster =
      ((before ++ after).foldl (Progress.follow mechanism now) { roster }).roster :=
    paired.follow_refused_roster distinct absent refused
  have gone : ∀ id ∈ passed.roster.registeredIds, id ≠ definition.id := by
    rintro _ member rfl
    rw [tallied.paired.mem_registeredIds, tallied.outcome definition (by simp),
      admitsAtTurn_atOnce, absent, refused] at member
    simp at member
  have deleted : (passed.roster.registeredIds.filter fun id =>
        !((before ++ definition :: after).map Definition.id).contains id) =
      passed.roster.registeredIds.filter fun id =>
        !((before ++ after).map Definition.id).contains id := by
    refine List.filter_congr fun id member => ?_
    have differ := gone id member
    simp [differ]
  calc (roster.reconcile mechanism now (before ++ definition :: after)).roster
    _ = ((passed.roster.registeredIds.filter fun id =>
          !((before ++ after).map Definition.id).contains id).foldl Progress.drop passed).roster :=
        congrArg (fun ids => (ids.foldl Progress.drop passed).roster) deleted
    _ = (roster.reconcile mechanism now (before ++ after)).roster := by
        rw [followed, Roster.reconcile]
        refine roster_foldl_congr ?_ _ followed
        exact fun _ _ _ same => roster_drop_congr same

theorem Paired.reconcile_refused_summary (paired : roster.Paired)
    (distinct : ((before ++ definition :: after).map Definition.id).Nodup)
    (enabled : definition.enabled = true) (absent : roster.isRegistered definition.id = false)
    (refused : roster.admits mechanism now definition = false) :
    let others := (roster.reconcile mechanism now (before ++ after)).summary
    (roster.reconcile mechanism now (before ++ definition :: after)).summary =
      { others with failed := others.failed + 1 } := by
  intro others
  have accounts := @Paired.reconcile_accounts _ mechanism _ _ paired distinct now
  have distinctToo : ((before ++ after).map Definition.id).Nodup := by
    refine distinct.sublist (List.Sublist.map Definition.id ?_)
    exact (List.Sublist.refl before).append (List.sublist_cons_self definition after)
  have accountsToo := @Paired.reconcile_accounts _ mechanism _ _ paired distinctToo now
  have offers : roster.offers (before ++ definition :: after) =
      roster.offers before ++ definition :: roster.offers after := by
    simp [Roster.offers, enabled, absent]
  have offersToo : roster.offers (before ++ after) = roster.offers before ++ roster.offers after :=
    List.filter_append ..
  have leavers : roster.leavers (before ++ definition :: after) =
      roster.leavers (before ++ after) := by
    refine List.filter_congr fun id member => ?_
    have differ : id ≠ definition.id := by
      rintro rfl
      simp [paired.mem_registeredIds, absent] at member
    simp [Definition.enabledIds, enabled, differ]
  refine Summary.eq_of_counts ?_ ?_ ?_ ?_
  · rw [accounts.registered, offers]
    refine Eq.trans ?_ accountsToo.registered.symm
    simp [offersToo, refused]
  · rw [accounts.unregistered, leavers]
    exact accountsToo.unregistered.symm
  · rw [accounts.failed, offers]
    refine Eq.trans ?_ (congrArg (· + 1) accountsToo.failed.symm)
    simp [offersToo, refused, Nat.add_assoc]
  · exact accounts.fresh.trans accountsToo.fresh.symm

end

/-- A pass has done what it reports, whatever goes on beside it: it has taken those of the enabled
tasks that were new and that the engine admitted, kept the entries of the others, and taken out all
the rest. Neither the order of the definitions nor those that are refused matter to the others, and
another pass over the same definitions finds nothing left to do. -/
theorem reconciliation_exact_and_idempotent {settings : ScheduleSettings} {gated : Bool}
    {history : List Episode} (distinct : (definitions.map Definition.id).Nodup) (now : Wall) :
    let roster : Roster σ := ({ settings, gated } : Roster σ).after mechanism history
    let pass := roster.reconcile mechanism now
    (∀ round, round.definitions = definitions →
      roster.Accounts definitions (roster.admitsAtTurn mechanism round)
        (roster.reconcileAmid mechanism round)) ∧
    roster.Accounts definitions (roster.admits mechanism now) (pass definitions) ∧
    (∀ id ∈ roster.registeredIds, id ∈ Definition.enabledIds definitions → ∃ number entry,
      Rows.find? id roster.entries = some number ∧
        roster.engine.timetable.find? number = some entry ∧
        Rows.find? id (pass definitions).roster.entries = some number ∧
        (pass definitions).roster.engine.timetable.find? number = some entry) ∧
    (∀ others, others.Perm definitions → (pass others).summary = (pass definitions).summary ∧
      (pass others).roster.registeredIds = (pass definitions).roster.registeredIds) ∧
    (∀ before bad after, definitions = before ++ bad :: after → bad.enabled = true →
      roster.isRegistered bad.id = false → roster.admits mechanism now bad = false →
        (pass definitions).roster = (pass (before ++ after)).roster ∧
        (pass definitions).summary = { (pass (before ++ after)).summary with
          failed := (pass (before ++ after)).summary.failed + 1 }) ∧
    (mechanism.Steady → ∀ round, round.definitions = definitions →
      let first := roster.reconcileAmid mechanism round
      ∀ acts : List Aside, let between := acts.foldl (Roster.aside mechanism) first.roster
        (∀ later, (between.reconcile mechanism later definitions).roster = between ∧
          (between.reconcile mechanism later definitions).summary =
            { failed := first.summary.failed }) ∧
        ∀ again : Round, again.definitions = definitions →
          (between.reconcileAmid mechanism again).roster =
            again.beside.foldl (Roster.aside mechanism) { between with applied := again.ticket } ∧
          (between.reconcileAmid mechanism again).summary =
            { failed := first.summary.failed }) := by
  intro roster pass
  have paired : roster.Paired := (start_paired settings gated).after history
  have accounts := @Paired.reconcile_accounts _ mechanism _ _ paired distinct now
  refine ⟨?_, accounts, ?_, ?_, ?_, ?_⟩
  · rintro round rfl
    exact paired.accounts distinct
  · intro id registered wanted
    obtain ⟨number, listed⟩ := Option.isSome_iff_exists.mp (paired.mem_registeredIds.mp registered)
    obtain ⟨definition, duty, _⟩ := paired.tasks id number listed
    obtain ⟨entry, found, _⟩ := Option.map_eq_some_iff.mp duty
    have held : (pass definitions).roster.Holds id number entry :=
      Holds.reconcile ⟨paired, listed, found⟩ distinct wanted
    exact ⟨number, entry, listed, found, held.listed, held.found⟩
  · intro others perm
    have distinctToo : (others.map Definition.id).Nodup := (perm.map _).nodup_iff.mpr distinct
    exact (paired.reconcile_accounts distinctToo now).unique (accounts.perm perm)
      (paired.reconcile now others) (paired.reconcile now definitions)
  · rintro before bad after rfl enabled absent refused
    exact ⟨paired.reconcile_refused_roster distinct absent refused,
      paired.reconcile_refused_summary distinct enabled absent refused⟩
  · rintro steady round rfl first acts between
    refine ⟨fun later => ?_, fun again same => (paired.again steady distinct acts same).symm⟩
    obtain ⟨summary, same⟩ := @Paired.again _ mechanism roster round paired steady distinct acts
      (.atOnce between.applied later round.definitions) rfl
    rw [Round.beside_atOnce] at same
    exact ⟨same, summary⟩

end Roster

theorem everySecond_steady : everySecond.Steady := by
  intro expression now later
  by_cases empty : expression = "" <;>
    simp [Timetable.plan, everySecond, empty, Except.mapError, bind, Except.bind, pure, Except.pure,
      Except.isOk, Except.toBool]

/-- Tasks 1 and 4 are registered. -/
def staffed : Roster Unit :=
  ({} : Roster Unit).after everySecond [.round (.atOnce 1 0 [sweep, { sweep with id := 4 }])]

/-- Of the tasks 1 and 4 the one stays and the other goes, while one is refused and one comes. -/
def renewal : List Definition :=
  [sweep, { sweep with id := 2, cron := "" }, { sweep with id := 3 }]

/-- A loop of the engine comes and ends. -/
def closing : List Aside := [.run 0, .dismiss, .step 0 60, .step 0 60]

theorem renewal_settles_at_once :
    let renewed := staffed.reconcile everySecond 60 renewal
    let stopped := closing.foldl (Roster.aside everySecond) renewed.roster
    (renewal.map Definition.id).Nodup ∧ everySecond.Steady ∧
      renewed.summary = { registered := 1, unregistered := 1, failed := 1 } ∧
      renewed.roster.registeredIds = [1, 3] ∧ stopped.engine.stopped = true ∧
      (stopped.reconcile everySecond 120 renewal).summary = { failed := 1 } ∧
      (stopped.reconcile everySecond 120 renewal).roster = stopped := by
  have distinct : (renewal.map Definition.id).Nodup := by decide
  obtain ⟨_, accounts, _, _, _, again⟩ :=
    @Roster.reconciliation_exact_and_idempotent _ everySecond renewal {} false
      [.round (.atOnce 1 0 [sweep, { sweep with id := 4 }])] distinct 60
  have summary : (staffed.reconcile everySecond 60 renewal).summary =
      { registered := 1, unregistered := 1, failed := 1 } :=
    Summary.eq_of_counts accounts.registered accounts.unregistered accounts.failed accounts.fresh
  have settled := (again everySecond_steady (.atOnce staffed.applied 60 renewal) rfl closing).1 120
  have failed : (staffed.reconcile everySecond 60 renewal).summary.failed = 1 :=
    congrArg Summary.failed summary
  refine ⟨distinct, everySecond_steady, summary, by decide +kernel, by decide +kernel, ?_,
    settled.1⟩
  exact settled.2.trans (failed ▸ rfl)

end Rota.Schedule
