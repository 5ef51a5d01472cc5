import Rota.Proofs.Rows
import Rota.Schedule.Roster

/-!
What one reconciliation does to one task. Main statements: a task whose definitions are all
disabled is unregistered by it, also when there are none; a task that is offered, and only
enabled, stays registered, or comes to be when the engine takes it.
-/

namespace Rota.Schedule

/-- The engine takes an expression whenever it comes, as long as it has not stopped. -/
def Mechanism.Accepts {σ δ : Type} (mechanism : Mechanism σ δ) (expression : String) : Prop :=
  ∀ now, ∃ plan, Timetable.plan mechanism now expression = .ok plan

namespace Engine

variable {σ δ : Type}

theorem rouse_stopped (engine : Engine σ δ) : engine.rouse.stopped = engine.stopped := by
  simp only [rouse]
  split <;> rfl

theorem remove_stopped (engine : Engine σ δ) (id : EntryId) :
    (engine.remove id).2.stopped = engine.stopped := by
  simp only [remove]
  split
  · exact rouse_stopped _
  · rfl

variable {engine next : Engine σ δ} {mechanism : Mechanism σ δ} {now : Wall}
  {name expression : String} {duty : δ} {id : EntryId}

theorem add_stopped (added : engine.add mechanism now name expression duty = .ok (id, next)) :
    next.stopped = engine.stopped := by
  simp only [add, bind, Except.bind, pure, Except.pure] at added
  split at added
  · simp [throw, throwThe, MonadExceptOf.throw] at added
  · split at added
    · simp at added
    · simp only [Except.ok.injEq, Prod.mk.injEq] at added
      rw [← added.2, rouse_stopped]

theorem add_ok (running : engine.stopped = false) (accepted : mechanism.Accepts expression) :
    ∃ added, engine.add mechanism now name expression duty = .ok added := by
  obtain ⟨plan, planned⟩ := accepted now
  simp [add, Timetable.add, planned, running, bind, Except.bind, pure, Except.pure]

end Engine

namespace Roster

variable {σ : Type} {mechanism : Mechanism σ Duty} {now : Wall} {roster next : Roster σ}
  {definition : Definition} {id other : TaskId}

theorem register_true (registered : roster.register mechanism now definition = .ok (true, next)) :
    roster.isRegistered definition.id = false ∧ ∃ entry engine,
      roster.engine.add mechanism now definition.name definition.cron (.task definition) =
        .ok (entry, engine) ∧
      next = { roster with engine, entries := Rows.put definition.id entry roster.entries } := by
  simp only [register, bind, Except.bind, pure, Except.pure] at registered
  split at registered
  · simp at registered
  · rename_i unregistered
    refine ⟨Bool.eq_false_iff.mpr unregistered, ?_⟩
    split at registered
    · simp at registered
    · rename_i added same
      simp only [Except.ok.injEq, Prod.mk.injEq, true_and] at registered
      exact ⟨added.1, added.2, same, registered.symm⟩

theorem register_false (kept : roster.register mechanism now definition = .ok (false, next)) :
    roster.isRegistered definition.id = true ∧ next = roster := by
  simp only [register, bind, Except.bind, pure, Except.pure] at kept
  split at kept
  · rename_i registered
    simp only [Except.ok.injEq, Prod.mk.injEq, true_and] at kept
    exact ⟨registered, kept.symm⟩
  · split at kept <;> simp at kept

/-- A registration fails only for a task that is not registered and that the engine refuses. -/
theorem register_error {error : ScheduleError}
    (failed : roster.register mechanism now definition = .error error) :
    roster.isRegistered definition.id = false ∧
      roster.engine.add mechanism now definition.name definition.cron (.task definition) =
        .error error := by
  simp only [register, bind, Except.bind, pure, Except.pure] at failed
  split at failed
  · simp at failed
  · rename_i unregistered
    refine ⟨Bool.eq_false_iff.mpr unregistered, ?_⟩
    split at failed
    · rename_i refused
      cases failed
      exact refused
    · simp at failed

theorem isRegistered_put (entry : EntryId) (engine : Engine σ Duty) :
    { roster with engine, entries := Rows.put id entry roster.entries }.isRegistered other =
      (decide (other = id) || roster.isRegistered other) := by
  by_cases same : other = id
  · simp [isRegistered, same, Rows.find?_put_self]
  · simp [isRegistered, same, Rows.find?_put_of_ne]

theorem isRegistered_unregister (ascending : Rows.Ascending roster.entries) :
    (roster.unregister id).2.isRegistered other =
      (decide (other ≠ id) && roster.isRegistered other) := by
  cases found : Rows.find? id roster.entries with
  | none =>
      by_cases same : other = id
      · simp [unregister, found, same, isRegistered]
      · simp [unregister, found, same]
  | some entry =>
      by_cases same : other = id
      · simp [unregister, found, same, isRegistered, Rows.find?_erase_self ascending]
      · simp [unregister, found, same, isRegistered, Rows.find?_erase_of_ne ascending same]

/-- What no reconciliation changes. -/
structure Progress.Keeps (first last : Progress σ) : Prop where
  issued : last.roster.issued = first.roster.issued
  applied : last.roster.applied = first.roster.applied
  stopped : last.roster.engine.stopped = first.roster.engine.stopped
  stale : last.summary.stale = first.summary.stale
  ascending : Rows.Ascending first.roster.entries → Rows.Ascending last.roster.entries

namespace Progress

theorem Keeps.refl (progress : Progress σ) : progress.Keeps progress :=
  ⟨rfl, rfl, rfl, rfl, id⟩

theorem Keeps.trans {first middle last : Progress σ} (before : first.Keeps middle)
    (after : middle.Keeps last) : first.Keeps last :=
  ⟨after.issued.trans before.issued, after.applied.trans before.applied,
    after.stopped.trans before.stopped, after.stale.trans before.stale,
    after.ascending ∘ before.ascending⟩

theorem foldl_keeps {α : Type} {step : Progress σ → α → Progress σ}
    (kept : ∀ progress item, Keeps progress (step progress item)) (items : List α)
    (progress : Progress σ) : progress.Keeps (items.foldl step progress) := by
  induction items generalizing progress with
  | nil => exact .refl progress
  | cons item items ih => exact (kept progress item).trans (ih (step progress item))

variable (progress : Progress σ)

theorem drop_keeps (id : TaskId) : progress.Keeps (progress.drop id) := by
  cases found : Rows.find? id progress.roster.entries with
  | none => constructor <;> simp [drop, unregister, found]
  | some entry =>
      constructor <;> simp [drop, unregister, found, Engine.remove_stopped]
      exact Rows.ascending_erase

theorem isRegistered_drop (ascending : Rows.Ascending progress.roster.entries) :
    (progress.drop id).roster.isRegistered other =
      (decide (other ≠ id) && progress.roster.isRegistered other) :=
  isRegistered_unregister ascending

variable (mechanism : Mechanism σ Duty) (now : Wall) (definition : Definition)

/-- What following one definition does, with the task it is for. -/
inductive Followed (progress : Progress σ) (definition : Definition) : Progress σ → Prop
  | dropped : definition.enabled = false →
      Followed progress definition (progress.drop definition.id)
  | registered {entry engine summary} : definition.enabled = true →
      progress.roster.isRegistered definition.id = false →
      progress.roster.engine.add mechanism now definition.name definition.cron
        (.task definition) = .ok (entry, engine) →
      summary.stale = progress.summary.stale →
      Followed progress definition
        { progress with
          summary
          roster := { progress.roster with
            engine, entries := Rows.put definition.id entry progress.roster.entries } }
  | kept : definition.enabled = true → progress.roster.isRegistered definition.id = true →
      Followed progress definition progress
  | refused {error summary notices} : definition.enabled = true →
      progress.roster.isRegistered definition.id = false →
      progress.roster.engine.add mechanism now definition.name definition.cron
        (.task definition) = .error error →
      summary.stale = progress.summary.stale →
      Followed progress definition { progress with summary, notices }

theorem follow_followed :
    Followed mechanism now progress definition (progress.follow mechanism now definition) := by
  cases enabled : definition.enabled with
  | false =>
      simp only [follow, enabled, Bool.not_false, if_true]
      exact .dropped enabled
  | true =>
      cases outcome : progress.roster.register mechanism now definition with
      | error error =>
          obtain ⟨absent, refused⟩ := register_error outcome
          simp only [follow, enabled, outcome, Bool.not_true, Bool.false_eq_true, if_false]
          exact .refused enabled absent refused rfl
      | ok result =>
          obtain ⟨added, roster⟩ := result
          cases added with
          | true =>
              obtain ⟨absent, entry, engine, added, rfl⟩ := register_true outcome
              simp only [follow, enabled, outcome, Bool.not_true, Bool.false_eq_true, if_false]
              exact .registered enabled absent added rfl
          | false =>
              obtain ⟨registered, rfl⟩ := register_false outcome
              simp only [follow, enabled, outcome, Bool.not_true, Bool.false_eq_true, if_false]
              exact .kept enabled registered

theorem follow_keeps : progress.Keeps (progress.follow mechanism now definition) := by
  have followed := follow_followed progress mechanism now definition
  generalize progress.follow mechanism now definition = result at followed ⊢
  cases followed with
  | dropped => exact drop_keeps progress definition.id
  | registered _ _ added stale =>
      exact ⟨rfl, rfl, Engine.add_stopped added, stale, Rows.ascending_put⟩
  | kept => exact .refl progress
  | refused _ _ _ stale => exact ⟨rfl, rfl, rfl, stale, id⟩

variable {progress definition}

theorem isRegistered_follow_of_ne (ascending : Rows.Ascending progress.roster.entries)
    (differ : id ≠ definition.id) :
    (progress.follow mechanism now definition).roster.isRegistered id =
      progress.roster.isRegistered id := by
  have followed := follow_followed progress mechanism now definition
  generalize progress.follow mechanism now definition = result at followed ⊢
  cases followed with
  | dropped => simp [isRegistered_drop, ascending, differ]
  | registered => simp [isRegistered_put, differ]
  | kept => rfl
  | refused => rfl

theorem isRegistered_follow_disabled (ascending : Rows.Ascending progress.roster.entries)
    (disabled : definition.enabled = false) :
    (progress.follow mechanism now definition).roster.isRegistered definition.id = false := by
  simp [follow, disabled, isRegistered_drop, ascending]

theorem isRegistered_follow_enabled (enabled : definition.enabled = true)
    (ready : progress.roster.isRegistered definition.id = true ∨
      progress.roster.engine.stopped = false ∧ mechanism.Accepts definition.cron) :
    (progress.follow mechanism now definition).roster.isRegistered definition.id = true := by
  have followed := follow_followed progress mechanism now definition
  generalize progress.follow mechanism now definition = result at followed ⊢
  cases followed with
  | dropped disabled => simp [enabled] at disabled
  | registered => simp [isRegistered_put]
  | kept _ registered => exact registered
  | refused _ absent refused =>
      rcases ready with registered | ⟨running, accepted⟩
      · simp [absent] at registered
      · obtain ⟨added, taken⟩ := Engine.add_ok running accepted
        exact absurd (refused.symm.trans taken) (by simp)

theorem isRegistered_foldl_disabled {definitions : List Definition}
    (disabled : ∀ definition ∈ definitions, definition.id = id → definition.enabled = false)
    (ascending : Rows.Ascending progress.roster.entries)
    (registered : (definitions.foldl (follow mechanism now) progress).roster.isRegistered id =
      true) :
    progress.roster.isRegistered id = true ∧ ∀ definition ∈ definitions, definition.id ≠ id := by
  induction definitions generalizing progress with
  | nil => exact ⟨registered, by simp⟩
  | cons definition definitions ih =>
      have kept := follow_keeps progress mechanism now definition
      obtain ⟨before, others⟩ := ih
        (fun later member => disabled later (List.mem_cons_of_mem _ member))
        (kept.ascending ascending) registered
      by_cases same : definition.id = id
      · have off := disabled definition List.mem_cons_self same
        have dropped := isRegistered_follow_disabled mechanism now ascending off
        rw [same, before] at dropped
        simp at dropped
      · rw [isRegistered_follow_of_ne mechanism now ascending (Ne.symm same)] at before
        refine ⟨before, ?_⟩
        intro later member
        rcases List.mem_cons.mp member with rfl | member
        · exact same
        · exact others later member

theorem isRegistered_foldl_enabled {definitions : List Definition}
    (enabled : ∀ definition ∈ definitions, definition.id = id → definition.enabled = true)
    (ascending : Rows.Ascending progress.roster.entries)
    (ready : progress.roster.isRegistered id = true ∨
      progress.roster.engine.stopped = false ∧
        (∀ definition ∈ definitions, definition.id = id → mechanism.Accepts definition.cron) ∧
        ∃ definition ∈ definitions, definition.id = id) :
    (definitions.foldl (follow mechanism now) progress).roster.isRegistered id = true := by
  induction definitions generalizing progress with
  | nil =>
      rcases ready with registered | ⟨_, _, definition, member, _⟩
      · exact registered
      · simp at member
  | cons definition definitions ih =>
      have kept := follow_keeps progress mechanism now definition
      apply ih (fun later member => enabled later (List.mem_cons_of_mem _ member))
        (kept.ascending ascending)
      by_cases same : definition.id = id
      · subst same
        left
        apply isRegistered_follow_enabled mechanism now (enabled _ List.mem_cons_self rfl)
        exact ready.imp_right fun ⟨running, accepted, _⟩ =>
          ⟨running, accepted _ List.mem_cons_self rfl⟩
      · rw [isRegistered_follow_of_ne mechanism now ascending (Ne.symm same), kept.stopped]
        refine ready.imp_right fun ⟨running, accepted, offered, member, wanted⟩ => ?_
        refine ⟨running, fun later member => accepted later (List.mem_cons_of_mem _ member), ?_⟩
        rcases List.mem_cons.mp member with rfl | member
        · exact absurd wanted same
        · exact ⟨offered, member, wanted⟩

theorem isRegistered_foldl_drop {ids : List TaskId}
    (ascending : Rows.Ascending progress.roster.entries) :
    (ids.foldl drop progress).roster.isRegistered id =
      (decide (id ∉ ids) && progress.roster.isRegistered id) := by
  induction ids generalizing progress with
  | nil => simp
  | cons first ids ih =>
      rw [List.foldl_cons, ih ((drop_keeps progress first).ascending ascending),
        isRegistered_drop progress ascending]
      by_cases same : id = first <;> simp [same]

end Progress

variable (mechanism : Mechanism σ Duty) (now : Wall) {definitions : List Definition}

theorem reconcile_keeps {mechanism : Mechanism σ Duty} {now : Wall} {progress : Progress σ}
    (reconciled : roster.reconcile mechanism now definitions = progress) :
    Progress.Keeps { roster } progress := by
  subst reconciled
  apply Progress.Keeps.trans
  · exact Progress.foldl_keeps
      (fun progress definition => progress.follow_keeps mechanism now definition) definitions _
  · exact Progress.foldl_keeps Progress.drop_keeps _ _

theorem mem_registeredIds (registered : roster.isRegistered id = true) :
    id ∈ roster.registeredIds := by
  obtain ⟨entry, found⟩ := Option.isSome_iff_exists.mp registered
  exact Rows.mem_keys_of_find? found

theorem isRegistered_reconcile_disabled (ascending : Rows.Ascending roster.entries)
    (disabled : ∀ definition ∈ definitions, definition.id = id → definition.enabled = false) :
    (roster.reconcile mechanism now definitions).roster.isRegistered id = false := by
  have kept := Progress.foldl_keeps
    (fun progress definition => progress.follow_keeps mechanism now definition) definitions
    { roster }
  apply Bool.eq_false_iff.mpr
  intro registered
  rw [reconcile, Progress.isRegistered_foldl_drop (kept.ascending ascending)] at registered
  simp only [Bool.and_eq_true, decide_eq_true_eq] at registered
  obtain ⟨left, survived⟩ := registered
  -- What is still registered after the definitions has none, and the sweep takes it.
  obtain ⟨_, absent⟩ := Progress.isRegistered_foldl_disabled mechanism now disabled ascending
    survived
  apply left
  simp only [List.mem_filter, mem_registeredIds survived, true_and, Bool.not_eq_true',
    List.contains_eq_mem, decide_eq_false_iff_not, List.mem_map, not_exists, not_and]
  exact absent

theorem isRegistered_reconcile_enabled (ascending : Rows.Ascending roster.entries)
    (enabled : ∀ definition ∈ definitions, definition.id = id → definition.enabled = true)
    (offered : ∃ definition ∈ definitions, definition.id = id)
    (ready : roster.isRegistered id = true ∨ roster.engine.stopped = false ∧
      ∀ definition ∈ definitions, definition.id = id → mechanism.Accepts definition.cron) :
    (roster.reconcile mechanism now definitions).roster.isRegistered id = true := by
  have kept := Progress.foldl_keeps
    (fun progress definition => progress.follow_keeps mechanism now definition) definitions
    { roster }
  rw [reconcile, Progress.isRegistered_foldl_drop (kept.ascending ascending)]
  have followed :
      (definitions.foldl (Progress.follow mechanism now) { roster }).roster.isRegistered id =
        true := by
    apply Progress.isRegistered_foldl_enabled mechanism now enabled ascending
    exact ready.imp_right fun ⟨running, accepted⟩ => ⟨running, accepted, offered⟩
  simpa [followed] using Or.inr offered

end Roster

end Rota.Schedule
