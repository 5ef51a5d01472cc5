import Mathlib.Data.List.Perm.Basic
import Rota.Proofs.Schedule.Aftermath
import Rota.Proofs.Schedule.Episodes
import Rota.Proofs.Schedule.Pairing

/-!
What a pass over the definitions reports, and what it has done. Main statement: the counts of a pass
are those of the tasks that came, went and were refused, whatever goes on beside it.
-/

namespace Rota.Schedule

def Definition.enabledIds (definitions : List Definition) : List TaskId :=
  (definitions.filter Definition.enabled).map Definition.id

theorem Engine.isOk_add {σ δ : Type} (engine : Engine σ δ) (mechanism : Mechanism σ δ) (now : Wall)
    (name expression : String) (duty : δ) :
    (engine.add mechanism now name expression duty).isOk =
      (!engine.stopped && (Timetable.plan mechanism now expression).isOk) := by
  simp only [add, Timetable.add, bind, Except.bind, pure, Except.pure]
  cases engine.stopped with
  | true => rfl
  | false => cases Timetable.plan mechanism now expression <;> rfl

theorem Summary.eq_of_counts {one other : Summary} (registered : one.registered = other.registered)
    (unregistered : one.unregistered = other.unregistered) (failed : one.failed = other.failed)
    (stale : one.stale = other.stale) : one = other := by
  cases one
  cases other
  simp_all

/-- A round that nothing interrupts. -/
def Round.atOnce (ticket : Nat) (now : Wall) (definitions : List Definition) : Round :=
  { ticket, definitions, clock := fun _ => now, meanwhile := fun _ => [] }

namespace Roster

variable {σ : Type}

/-- The tasks that are to come. -/
def offers (roster : Roster σ) (definitions : List Definition) : List Definition :=
  definitions.filter fun definition => definition.enabled && !roster.isRegistered definition.id

/-- The tasks that are to go. -/
def leavers (roster : Roster σ) (definitions : List Definition) : List TaskId :=
  roster.registeredIds.filter fun id => !(Definition.enabledIds definitions).contains id

def admits (roster : Roster σ) (mechanism : Mechanism σ Duty) (now : Wall)
    (definition : Definition) : Bool :=
  (roster.engine.add mechanism now definition.name definition.cron (.task definition)).isOk

def admitsAtTurn (roster : Roster σ) (mechanism : Mechanism σ Duty) (round : Round)
    (definition : Definition) : Bool :=
  (roster.atTurn mechanism round definition.id).admits mechanism (round.clock definition.id)
    definition

/-- A pass that has taken certain definitions has kept count of what it did. -/
structure Accounts (roster : Roster σ) (definitions : List Definition) (taken : Definition → Bool)
    (progress : Progress σ) : Prop where
  registered : progress.summary.registered = (roster.offers definitions).countP taken
  failed : progress.summary.failed = (roster.offers definitions).countP fun definition =>
    !taken definition
  unregistered : progress.summary.unregistered = (roster.leavers definitions).length
  fresh : progress.summary.stale = false
  members : ∀ id, id ∈ progress.roster.registeredIds ↔
    id ∈ roster.registeredIds ∧ id ∈ Definition.enabledIds definitions ∨
      ∃ definition ∈ roster.offers definitions, taken definition = true ∧ definition.id = id
  kept : ∀ id ∈ Definition.enabledIds definitions, ∀ number,
    Rows.find? id roster.entries = some number → Rows.find? id progress.roster.entries = some number

variable {mechanism : Mechanism σ Duty} {roster next : Roster σ} {definitions : List Definition}
  {definition : Definition} {now : Wall} {round : Round} {id other : TaskId}

theorem admits_eq : roster.admits mechanism now definition =
    (!roster.engine.stopped && (Timetable.plan mechanism now definition.cron).isOk) :=
  Engine.isOk_add ..

/-! What goes on beside a pass. -/

theorem aside_entries (act : Aside) : (roster.aside mechanism act).entries = roster.entries :=
  (roster.aside_spares act).entries

theorem Paired.aside (paired : roster.Paired) (act : Aside) :
    (roster.aside mechanism act).Paired := by
  cases act with
  | initialise now => exact (operate_operated roster (.initialise now)).paired paired
  | run loop => exact paired.of_duties rfl rfl paired.timetable fun _ => rfl
  | dismiss => exact (@operate_operated _ mechanism roster .dismiss).paired paired
  | step loop now => exact (reaches_aside_step roster mechanism loop now).paired paired

theorem aside_stopped (stopped : roster.engine.stopped = true) (act : Aside) :
    (roster.aside mechanism act).engine.stopped = true := by
  cases act with
  | initialise now =>
      simp only [Roster.aside]
      cases initialised : roster.initialise mechanism now with
      | error reason => exact stopped
      | ok next =>
          obtain ⟨engine, reloadEntry, rfl, same⟩ := Reloading.initialise_roster initialised
          exact same.trans stopped
  | run loop => exact stopped
  | dismiss => exact (Engine.dismiss_stopped roster.engine).trans stopped
  | step loop now =>
      simp only [Roster.aside]
      split
      · rename_i engine pass stepped
        obtain ⟨found, _, stepped⟩ := Option.bind_eq_some_iff.mp stepped
        exact (Engine.step?_stepped stepped).stopped stopped
      · exact stopped

theorem asides_entries (acts : List Aside) :
    (acts.foldl (Roster.aside mechanism) roster).entries = roster.entries := by
  induction acts generalizing roster with
  | nil => rfl
  | cons act acts ih => exact ih.trans (aside_entries act)

theorem Paired.asides (paired : roster.Paired) (acts : List Aside) :
    (acts.foldl (Roster.aside mechanism) roster).Paired := by
  induction acts generalizing roster with
  | nil => exact paired
  | cons act acts ih => exact ih (paired.aside act)

theorem asides_stopped (stopped : roster.engine.stopped = true) (acts : List Aside) :
    (acts.foldl (Roster.aside mechanism) roster).engine.stopped = true := by
  induction acts generalizing roster with
  | nil => exact stopped
  | cons act acts ih => exact ih (aside_stopped stopped act)

/-! One step of a pass. -/

namespace Progress

variable {progress : Progress σ}

theorem summary_drop (progress : Progress σ) (id : TaskId) :
    (progress.drop id).summary = { progress.summary with
      unregistered := progress.summary.unregistered +
        if progress.roster.isRegistered id then 1 else 0 } := by
  cases found : Rows.find? id progress.roster.entries <;>
    simp [drop, unregister, isRegistered, found]

theorem summary_follow (progress : Progress σ) (mechanism : Mechanism σ Duty) (now : Wall)
    (definition : Definition) :
    (progress.follow mechanism now definition).summary =
      let registered := progress.roster.isRegistered definition.id
      let admitted := progress.roster.admits mechanism now definition
      let summary := progress.summary
      { summary with
        registered := summary.registered +
          if definition.enabled && !registered && admitted then 1 else 0
        failed := summary.failed +
          if definition.enabled && !registered && !admitted then 1 else 0
        unregistered := summary.unregistered +
          if !definition.enabled && registered then 1 else 0 } := by
  cases enabled : definition.enabled with
  | false => simp [follow, enabled, summary_drop]
  | true =>
      cases registered : progress.roster.isRegistered definition.id with
      | true => simp [follow, enabled, register, registered, pure, Except.pure]
      | false =>
          cases added : progress.roster.engine.add mechanism now definition.name definition.cron
              (.task definition) <;>
            simp [follow, enabled, register, registered, admits, added, bind, Except.bind, pure,
              Except.pure, Except.isOk, Except.toBool]

theorem find?_drop (ascending : Rows.Ascending progress.roster.entries) (id other : TaskId) :
    Rows.find? other (progress.drop id).roster.entries =
      if other = id then none else Rows.find? other progress.roster.entries := by
  simp only [drop, unregister]
  by_cases same : other = id
  · subst same
    cases found : Rows.find? other progress.roster.entries with
    | none => simpa using found
    | some number => simpa using Rows.find?_erase_self ascending
  · cases Rows.find? id progress.roster.entries with
    | none => simp [same]
    | some number => simpa [same] using Rows.find?_erase_of_ne ascending same

theorem find?_follow_of_ne (ascending : Rows.Ascending progress.roster.entries)
    (differ : id ≠ definition.id) :
    Rows.find? id (progress.follow mechanism now definition).roster.entries =
      Rows.find? id progress.roster.entries := by
  have followed := follow_followed progress mechanism now definition
  generalize progress.follow mechanism now definition = result at followed ⊢
  cases followed with
  | dropped => rw [find?_drop ascending, if_neg differ]
  | registered => exact Rows.find?_put_of_ne _ _ differ
  | kept => rfl
  | refused => rfl

theorem isRegistered_follow_self (ascending : Rows.Ascending progress.roster.entries) :
    (progress.follow mechanism now definition).roster.isRegistered definition.id =
      (definition.enabled && (progress.roster.isRegistered definition.id ||
        progress.roster.admits mechanism now definition)) := by
  have followed := follow_followed progress mechanism now definition
  generalize progress.follow mechanism now definition = result at followed ⊢
  cases followed with
  | dropped disabled => simp [isRegistered_drop, ascending, disabled]
  | registered enabled _ added => simp [isRegistered_put, enabled, admits, added, Except.isOk,
      Except.toBool]
  | kept enabled registered => simp [enabled, registered]
  | refused enabled absent refused => simp [enabled, absent, admits, refused, Except.isOk,
      Except.toBool]

/-- A definition that finds its task as it is to be, or is refused, changes nothing. -/
theorem roster_follow_idle
    (gone : definition.enabled = false → progress.roster.isRegistered definition.id = false)
    (refused : definition.enabled = true → progress.roster.isRegistered definition.id = false →
      progress.roster.admits mechanism now definition = false) :
    (progress.follow mechanism now definition).roster = progress.roster := by
  have followed := follow_followed progress mechanism now definition
  generalize progress.follow mechanism now definition = result at followed ⊢
  cases followed with
  | dropped disabled =>
      have absent := gone disabled
      simp only [isRegistered, Option.isSome_eq_false_iff, Option.isNone_iff_eq_none] at absent
      simp [drop, unregister, absent]
  | registered enabled absent added =>
      have fails := refused enabled absent
      simp [admits, added, Except.isOk, Except.toBool] at fails
  | kept => rfl
  | refused => rfl

theorem foldl_holds {α : Type} {step : Progress σ → α → Progress σ} {items : List α}
    (holds : Roster σ → Prop)
    (kept : ∀ item ∈ items, ∀ progress : Progress σ, holds progress.roster →
      holds (step progress item).roster)
    (initial : holds progress.roster) :
    holds (items.foldl step progress).roster := by
  induction items generalizing progress with
  | nil => exact initial
  | cons item items ih =>
      exact ih (fun later member => kept later (List.mem_cons_of_mem _ member))
        (kept item List.mem_cons_self progress initial)

end Progress

/-- What every aside and every step of a pass keeps, a round keeps. -/
theorem reconcileAmid_holds (holds : Roster σ → Prop)
    (begun : ∀ {roster : Roster σ} ticket, holds roster → holds { roster with applied := ticket })
    (aside : ∀ {roster : Roster σ} (acts : List Aside), holds roster →
      holds (acts.foldl (Roster.aside mechanism) roster))
    (follow : ∀ {progress : Progress σ} now definition, holds progress.roster →
      holds (progress.follow mechanism now definition).roster)
    (drop : ∀ {progress : Progress σ} id, holds progress.roster → holds (progress.drop id).roster)
    (initial : holds roster) : holds (roster.reconcileAmid mechanism round).roster := by
  refine Progress.foldl_holds holds (fun id _ progress before => drop id (aside _ before)) ?_
  exact Progress.foldl_holds holds (fun definition _ progress before => follow _ _ (aside _ before))
    (begun _ initial)

theorem Paired.follow {progress : Progress σ} (paired : progress.roster.Paired) (now : Wall)
    (definition : Definition) : (progress.follow mechanism now definition).roster.Paired :=
  (reaches_follow progress mechanism now definition).paired paired

theorem Paired.drop {progress : Progress σ} (paired : progress.roster.Paired) (id : TaskId) :
    (progress.drop id).roster.Paired := (reaches_unregister progress.roster id).paired paired

theorem Paired.begun (paired : roster.Paired) (ticket : Nat) :
    { roster with applied := ticket }.Paired :=
  paired.of_duties rfl rfl paired.timetable fun _ => rfl

theorem Paired.reconcileAmid (paired : roster.Paired) (round : Round) :
    (roster.reconcileAmid mechanism round).roster.Paired := by
  refine reconcileAmid_holds Paired ?_ ?_ ?_ ?_ paired
  · exact fun ticket before => before.begun ticket
  · exact fun acts before => before.asides acts
  · exact fun now definition before => before.follow now definition
  · exact fun id before => before.drop id

theorem Paired.after (paired : roster.Paired) (history : List Episode) :
    (roster.after mechanism history).Paired := by
  induction history generalizing roster with
  | nil => exact paired
  | cons episode history ih =>
      cases episode with
      | aside act => exact ih (paired.aside act)
      | round round => exact ih (paired.reconcileAmid round)

theorem Paired.mem_registeredIds (paired : roster.Paired) :
    id ∈ roster.registeredIds ↔ roster.isRegistered id = true :=
  Rows.mem_keys paired.ascending

theorem Paired.registeredIds_nodup (paired : roster.Paired) : roster.registeredIds.Nodup :=
  paired.ascending.keys_nodup

/-! The definitions of a round, one after another. -/

/-- What has come of the definitions that were followed so far. -/
structure Tallied (roster : Roster σ) (taken : Definition → Bool) (followed : List Definition)
    (progress : Progress σ) : Prop where
  paired : progress.roster.Paired
  registered : progress.summary.registered = (roster.offers followed).countP taken
  failed : progress.summary.failed = (roster.offers followed).countP fun definition =>
    !taken definition
  unregistered : progress.summary.unregistered = followed.countP fun definition =>
    !definition.enabled && roster.isRegistered definition.id
  fresh : progress.summary.stale = false
  untouched : ∀ id ∉ followed.map Definition.id,
    Rows.find? id progress.roster.entries = Rows.find? id roster.entries
  outcome : ∀ definition ∈ followed, progress.roster.isRegistered definition.id =
    (definition.enabled && (roster.isRegistered definition.id || taken definition))
  kept : ∀ definition ∈ followed, definition.enabled = true → ∀ number,
    Rows.find? definition.id roster.entries = some number →
      Rows.find? definition.id progress.roster.entries = some number

section

variable {taken : Definition → Bool} {followed : List Definition} {progress : Progress σ}

theorem offers_append (roster : Roster σ) (followed : List Definition) (definition : Definition) :
    roster.offers (followed ++ [definition]) = roster.offers followed ++
      if definition.enabled && !roster.isRegistered definition.id then [definition] else [] := by
  rw [offers, List.filter_append, ← offers, List.filter_singleton, Bool.cond_eq_ite]

theorem Tallied.begin (paired : roster.Paired) (taken : Definition → Bool) (round : Round) :
    roster.Tallied taken [] (roster.followRound mechanism round []) where
  paired := paired.begun round.ticket
  registered := rfl
  failed := rfl
  unregistered := rfl
  fresh := rfl
  untouched _ _ := rfl
  outcome := by simp
  kept := by simp

theorem Tallied.await (tallied : roster.Tallied taken followed progress) (round : Round)
    (id : TaskId) : roster.Tallied taken followed (progress.await mechanism round id) := by
  have entries : (progress.await mechanism round id).roster.entries = progress.roster.entries :=
    asides_entries _
  have same (other : TaskId) : (progress.await mechanism round id).roster.isRegistered other =
      progress.roster.isRegistered other := congrArg (Option.isSome <| Rows.find? other ·) entries
  exact
    { paired := tallied.paired.asides _
      registered := tallied.registered
      failed := tallied.failed
      unregistered := tallied.unregistered
      fresh := tallied.fresh
      untouched := entries ▸ tallied.untouched
      outcome := fun definition member => (same _).trans (tallied.outcome definition member)
      kept := entries ▸ tallied.kept }

theorem Tallied.follow (tallied : roster.Tallied taken followed progress)
    (fresh : definition.id ∉ followed.map Definition.id)
    (admits : progress.roster.admits mechanism now definition = taken definition) :
    roster.Tallied taken (followed ++ [definition])
      (progress.follow mechanism now definition) := by
  have ascending := tallied.paired.ascending
  -- None of those before it had its id, so its task is as it was at first.
  have before : progress.roster.isRegistered definition.id =
      roster.isRegistered definition.id := congrArg Option.isSome (tallied.untouched _ fresh)
  have others : ∀ other ∈ followed, other.id ≠ definition.id := fun other member same =>
    fresh (same ▸ List.mem_map_of_mem member)
  have summary := Progress.summary_follow progress mechanism now definition
  rw [before, admits] at summary
  dsimp only at summary
  refine ⟨tallied.paired.follow now definition, ?_, ?_, ?_, ?_, ?_, ?_, ?_⟩
  · rw [summary, offers_append, List.countP_append, ← tallied.registered]
    cases definition.enabled <;> cases roster.isRegistered definition.id <;> simp
  · rw [summary, offers_append, List.countP_append, ← tallied.failed]
    cases definition.enabled <;> cases roster.isRegistered definition.id <;> simp
  · rw [summary, List.countP_append, ← tallied.unregistered]
    simp
  · rw [summary]
    exact tallied.fresh
  · intro id absent
    rw [List.map_append, List.mem_append, not_or] at absent
    have differ : id ≠ definition.id := by simpa using absent.2
    rw [Progress.find?_follow_of_ne ascending differ]
    exact tallied.untouched id absent.1
  · intro other member
    rcases List.mem_append.mp member with old | new
    · rw [← tallied.outcome other old]
      exact congrArg Option.isSome (Progress.find?_follow_of_ne ascending (others other old))
    · obtain rfl := List.mem_singleton.mp new
      rw [Progress.isRegistered_follow_self ascending, before, admits]
  · intro other member enabled number found
    rcases List.mem_append.mp member with old | new
    · rw [Progress.find?_follow_of_ne ascending (others other old)]
      exact tallied.kept other old enabled number found
    · obtain rfl := List.mem_singleton.mp new
      have there := tallied.untouched _ fresh
      have registered : progress.roster.isRegistered other.id = true := by
        rw [isRegistered, there, found]
        rfl
      rw [Progress.roster_follow_idle (by simp [enabled]) (by simp [registered]), there]
      exact found

theorem tallied_followRound (paired : roster.Paired)
    (distinct : (round.definitions.map Definition.id).Nodup) {before after : List Definition}
    (split : round.definitions = before ++ after) :
    roster.Tallied (roster.admitsAtTurn mechanism round) before
      (roster.followRound mechanism round before) := by
  induction before using List.reverseRecOn generalizing after with
  | nil => exact .begin paired _ round
  | append_singleton before definition ih =>
      rw [List.append_assoc, List.singleton_append] at split
      rw [split, List.map_append, List.map_cons, List.nodup_append] at distinct
      have apart : ∀ other ∈ before, other.id ≠ definition.id := fun other member =>
        distinct.2.2 other.id (List.mem_map_of_mem member) definition.id List.mem_cons_self
      have fresh : definition.id ∉ before.map Definition.id := by
        intro member
        obtain ⟨other, member, same⟩ := List.mem_map.mp member
        exact apart other member same
      rw [followRound, List.foldl_append]
      refine ((ih split).await round definition.id).follow fresh ?_
      rw [admitsAtTurn, atTurn_of_split split apart]

theorem sweep_drops {ids : List TaskId} (paired : progress.roster.Paired) (distinct : ids.Nodup)
    (present : ∀ id ∈ ids, progress.roster.isRegistered id = true) (round : Round) :
    let swept := ids.foldl (Progress.dropAmid mechanism round) progress
    swept.summary = { progress.summary with
        unregistered := progress.summary.unregistered + ids.length } ∧
      ∀ other, Rows.find? other swept.roster.entries =
        if other ∈ ids then none else Rows.find? other progress.roster.entries := by
  induction ids generalizing progress with
  | nil => simp
  | cons id ids ih =>
      obtain ⟨fresh, distinct⟩ := List.nodup_cons.mp distinct
      have awaited : (progress.await mechanism round id).roster.Paired := paired.asides _
      have dropped : (progress.dropAmid mechanism round id).roster.Paired := awaited.drop id
      have entries : (progress.await mechanism round id).roster.entries = progress.roster.entries :=
        asides_entries _
      have found (other : TaskId) :
          Rows.find? other (progress.dropAmid mechanism round id).roster.entries =
            if other = id then none else Rows.find? other progress.roster.entries := by
        rw [← entries]
        exact Progress.find?_drop awaited.ascending id other
      have summary : (progress.dropAmid mechanism round id).summary = { progress.summary with
          unregistered := progress.summary.unregistered + 1 } := by
        refine (Progress.summary_drop _ id).trans ?_
        rw [isRegistered, entries, ← isRegistered, present id List.mem_cons_self]
        rfl
      obtain ⟨counted, rest⟩ := ih dropped distinct (by
        intro other member
        have differ : other ≠ id := fun same => fresh (same ▸ member)
        rw [isRegistered, found, if_neg differ]
        exact present other (List.mem_cons_of_mem _ member))
      refine ⟨?_, ?_⟩
      · rw [List.foldl_cons, counted, summary, List.length_cons, Nat.add_assoc, Nat.add_comm 1]
      · intro other
        rw [List.foldl_cons, rest, found]
        by_cases same : other = id <;> simp [same]

theorem mem_enabledIds : id ∈ Definition.enabledIds definitions ↔
    ∃ definition ∈ definitions, definition.enabled = true ∧ definition.id = id := by
  simp [Definition.enabledIds, and_assoc]

theorem mem_offers : definition ∈ roster.offers definitions ↔ definition ∈ definitions ∧
    definition.enabled = true ∧ roster.isRegistered definition.id = false := by
  simp [offers]

theorem Tallied.leavers_perm (tallied : roster.Tallied taken definitions progress)
    (paired : roster.Paired) (distinct : (definitions.map Definition.id).Nodup) :
    (roster.leavers definitions).Perm
      ((definitions.filter fun definition =>
        !definition.enabled && roster.isRegistered definition.id).map Definition.id ++
      progress.roster.registeredIds.filter fun id =>
        !(definitions.map Definition.id).contains id) := by
  have same (id : TaskId) (absent : id ∉ definitions.map Definition.id) :
      progress.roster.isRegistered id = roster.isRegistered id :=
    congrArg Option.isSome (tallied.untouched id absent)
  refine (List.perm_ext_iff_of_nodup (paired.registeredIds_nodup.filter _)
    (List.nodup_append.mpr ⟨?_, tallied.paired.registeredIds_nodup.filter _, ?_⟩)).mpr ?_
  · exact distinct.sublist (List.filter_sublist.map Definition.id)
  · rintro id disabled _ deleted rfl
    obtain ⟨definition, member, rfl⟩ := List.mem_map.mp disabled
    have stored := List.mem_map_of_mem (f := Definition.id) (List.mem_filter.mp member).1
    simp [stored, -List.mem_map] at deleted
  · intro id
    rw [List.mem_filter, List.mem_append, List.mem_filter, paired.mem_registeredIds,
      tallied.paired.mem_registeredIds]
    simp only [Bool.not_eq_true', List.contains_eq_mem, decide_eq_false_iff_not, mem_enabledIds]
    constructor
    · rintro ⟨registered, unwanted⟩
      -- A task that has a definition goes at its turn, any other in the sweep.
      by_cases stored : id ∈ definitions.map Definition.id
      · obtain ⟨definition, member, rfl⟩ := List.mem_map.mp stored
        have disabled : definition.enabled = false := Bool.eq_false_iff.mpr fun enabled =>
          unwanted ⟨definition, member, enabled, rfl⟩
        left
        exact List.mem_map_of_mem (List.mem_filter.mpr ⟨member, by simp [disabled, registered]⟩)
      · exact .inr ⟨(same id stored).trans registered, stored⟩
    · rintro (disabled | ⟨registered, absent⟩)
      · obtain ⟨definition, member, rfl⟩ := List.mem_map.mp disabled
        obtain ⟨member, condition⟩ := List.mem_filter.mp member
        rw [Bool.and_eq_true, Bool.not_eq_true'] at condition
        refine ⟨condition.2, ?_⟩
        rintro ⟨other, memberToo, enabled, sameId⟩
        rw [eq_of_id_eq distinct memberToo member sameId, condition.1] at enabled
        cases enabled
      · refine ⟨(same id absent).symm.trans registered, ?_⟩
        rintro ⟨definition, member, _, rfl⟩
        exact absent (List.mem_map_of_mem member)

/-- The tasks that were followed and are there now were there and are enabled, or were taken. -/
theorem Tallied.stay_iff (tallied : roster.Tallied taken definitions progress)
    (paired : roster.Paired) :
    progress.roster.isRegistered id = true ∧ id ∈ definitions.map Definition.id ↔
      id ∈ roster.registeredIds ∧ id ∈ Definition.enabledIds definitions ∨
        ∃ definition ∈ roster.offers definitions, taken definition = true ∧ definition.id = id := by
  rw [paired.mem_registeredIds]
  constructor
  · rintro ⟨present, stored⟩
    obtain ⟨definition, member, rfl⟩ := List.mem_map.mp stored
    rw [tallied.outcome definition member, Bool.and_eq_true, Bool.or_eq_true] at present
    obtain ⟨enabled, here⟩ := present
    cases registered : roster.isRegistered definition.id with
    | true => exact .inl ⟨rfl, mem_enabledIds.mpr ⟨definition, member, enabled, rfl⟩⟩
    | false =>
        have taken := here.resolve_left (by simp [registered])
        exact .inr ⟨definition, mem_offers.mpr ⟨member, enabled, registered⟩, taken, rfl⟩
  · rintro (⟨registered, wanted⟩ | ⟨definition, offered, taken, rfl⟩)
    · obtain ⟨definition, member, enabled, rfl⟩ := mem_enabledIds.mp wanted
      rw [tallied.outcome definition member]
      exact ⟨by simp [enabled, registered], List.mem_map_of_mem member⟩
    · obtain ⟨member, enabled, _⟩ := mem_offers.mp offered
      rw [tallied.outcome definition member]
      exact ⟨by simp [enabled, taken], List.mem_map_of_mem member⟩

theorem Paired.accounts (paired : roster.Paired)
    (distinct : (round.definitions.map Definition.id).Nodup) :
    roster.Accounts round.definitions (roster.admitsAtTurn mechanism round)
      (roster.reconcileAmid mechanism round) := by
  have tallied : roster.Tallied (roster.admitsAtTurn mechanism round) round.definitions
      (roster.followRound mechanism round round.definitions) :=
    tallied_followRound paired distinct (List.append_nil _).symm
  have leavers := (tallied.leavers_perm paired distinct).length_eq
  rw [List.length_append, List.length_map, ← List.countP_eq_length_filter] at leavers
  have finished : (roster.reconcileAmid mechanism round).roster.Paired := paired.reconcileAmid round
  rw [Roster.reconcileAmid] at finished ⊢
  generalize roster.followRound mechanism round round.definitions = followed
    at tallied leavers finished ⊢
  have deleted (id : TaskId) : id ∈ (followed.roster.registeredIds.filter fun id =>
      !(round.definitions.map Definition.id).contains id) ↔
        followed.roster.isRegistered id = true ∧ id ∉ round.definitions.map Definition.id := by
    rw [List.mem_filter, tallied.paired.mem_registeredIds]
    simp
  obtain ⟨summary, found⟩ := @sweep_drops _ mechanism _ _ tallied.paired
    (tallied.paired.registeredIds_nodup.filter _) (fun id member => ((deleted id).mp member).1)
    round
  refine ⟨?_, ?_, ?_, ?_, ?_, ?_⟩
  · exact (congrArg Summary.registered summary).trans tallied.registered
  · exact (congrArg Summary.failed summary).trans tallied.failed
  · rw [leavers, ← tallied.unregistered]
    exact congrArg Summary.unregistered summary
  · exact (congrArg Summary.stale summary).trans tallied.fresh
  · intro id
    rw [← tallied.stay_iff paired, finished.mem_registeredIds]
    refine (Bool.eq_iff_iff.mp (congrArg Option.isSome (found id))).trans ?_
    constructor
    · intro present
      split at present
      · cases present
      · rename_i left
        exact ⟨present, not_not.mp fun absent => left ((deleted id).mpr ⟨present, absent⟩)⟩
    · rintro ⟨present, stored⟩
      rw [if_neg fun gone => ((deleted id).mp gone).2 stored]
      exact present
  · intro id wanted number listed
    obtain ⟨definition, member, enabled, rfl⟩ := mem_enabledIds.mp wanted
    have stored := List.mem_map_of_mem (f := Definition.id) member
    refine (found definition.id).trans ?_
    rw [if_neg fun gone => ((deleted _).mp gone).2 stored]
    exact tallied.kept definition member enabled number listed

end

/-! What the accounts depend on. -/

section

variable {taken : Definition → Bool} {first second : Progress σ}

theorem Accounts.perm (accounts : roster.Accounts definitions taken first)
    {others : List Definition} (perm : others.Perm definitions) :
    roster.Accounts others taken first := by
  have enabled (id : TaskId) : id ∈ Definition.enabledIds others ↔
      id ∈ Definition.enabledIds definitions := ((perm.filter _).map _).mem_iff
  have offered : (roster.offers others).Perm (roster.offers definitions) := perm.filter _
  refine ⟨?_, ?_, ?_, accounts.fresh, ?_, ?_⟩
  · exact accounts.registered.trans (offered.countP_eq taken).symm
  · exact accounts.failed.trans (offered.countP_eq _).symm
  · rw [accounts.unregistered, leavers, leavers]
    simp only [List.contains_eq_mem, enabled]
  · simpa only [enabled, offered.mem_iff] using accounts.members
  · simpa only [enabled] using accounts.kept

theorem Accounts.unique (accounts : roster.Accounts definitions taken first)
    (accountsToo : roster.Accounts definitions taken second) (paired : first.roster.Paired)
    (pairedToo : second.roster.Paired) :
    first.summary = second.summary ∧ first.roster.registeredIds = second.roster.registeredIds := by
  constructor
  · exact Summary.eq_of_counts (accounts.registered.trans accountsToo.registered.symm)
      (accounts.unregistered.trans accountsToo.unregistered.symm)
      (accounts.failed.trans accountsToo.failed.symm)
      (accounts.fresh.trans accountsToo.fresh.symm)
  · exact Rows.keys_eq_of_mem paired.ascending pairedToo.ascending fun id =>
      (accounts.members id).trans (accountsToo.members id).symm

end

theorem Accounts.isRegistered {taken : Definition → Bool} {progress : Progress σ}
    (accounts : roster.Accounts definitions taken progress) (paired : roster.Paired)
    (pairedAfter : progress.roster.Paired) (distinct : (definitions.map Definition.id).Nodup)
    (member : definition ∈ definitions) : progress.roster.isRegistered definition.id =
      (definition.enabled && (roster.isRegistered definition.id || taken definition)) := by
  have members := accounts.members definition.id
  rw [paired.mem_registeredIds, pairedAfter.mem_registeredIds] at members
  rw [Bool.eq_iff_iff, members, Bool.and_eq_true, Bool.or_eq_true]
  constructor
  · rintro (⟨registered, wanted⟩ | ⟨other, offered, taken, same⟩)
    · obtain ⟨other, memberToo, enabled, same⟩ := mem_enabledIds.mp wanted
      obtain rfl := eq_of_id_eq distinct memberToo member same
      exact ⟨enabled, .inl registered⟩
    · obtain ⟨memberToo, enabled, _⟩ := mem_offers.mp offered
      obtain rfl := eq_of_id_eq distinct memberToo member same
      exact ⟨enabled, .inr taken⟩
  · rintro ⟨enabled, here⟩
    cases registered : roster.isRegistered definition.id with
    | true => exact .inl ⟨rfl, mem_enabledIds.mpr ⟨definition, member, enabled, rfl⟩⟩
    | false =>
        have taken := here.resolve_left (by simp [registered])
        exact .inr ⟨definition, mem_offers.mpr ⟨member, enabled, registered⟩, taken, rfl⟩

theorem Accounts.enabled {taken : Definition → Bool} {progress : Progress σ}
    (accounts : roster.Accounts definitions taken progress)
    (registered : id ∈ progress.roster.registeredIds) : id ∈ Definition.enabledIds definitions := by
  rcases (accounts.members id).mp registered with ⟨_, wanted⟩ | ⟨definition, offered, _, rfl⟩
  · exact wanted
  · obtain ⟨member, enabled, _⟩ := mem_offers.mp offered
    exact mem_enabledIds.mpr ⟨definition, member, enabled, rfl⟩

end Roster

end Rota.Schedule
