import Rota.Proofs.Schedule.Reconcile
import Rota.Proofs.Schedule.Timetable

/-!
What a registered task stands by: the definition whose name, schedule and arguments its entry
carries. Main statements: what each step of a roster, and of the engine beside it, makes of that
definition.
-/

namespace Rota.Schedule

/-- What goes on beside the rounds. -/
inductive Aside where
  | initialise (now : Wall)
  | run (loop : Nat)
  | dismiss
  | step (loop : Nat) (now : Wall)

namespace Roster

variable {σ : Type} (mechanism : Mechanism σ Duty)

def aside (roster : Roster σ) : Aside → Roster σ
  | .initialise now => (roster.initialise mechanism now).toOption.getD roster
  | .run loop => { roster with engine := roster.engine.run loop }
  | .dismiss => { roster with engine := roster.engine.dismiss }
  | .step loop now =>
    match (roster.engine.loops.find? (·.id == loop)).bind (roster.engine.step? mechanism now) with
    | some (engine, _) => { roster with engine }
    | none => roster

/-- A task is registered and its entry has the name, the schedule and the arguments of a
definition. -/
def Runs (roster : Roster σ) (definition : Definition) : Prop :=
  ∃ number entry, Rows.find? definition.id roster.entries = some number ∧
    roster.engine.timetable.find? number = some entry ∧ entry.name = definition.name ∧
    mechanism.read definition.cron = .ok entry.schedule ∧ entry.duty = .task definition

def Stands (roster : Roster σ) (id : TaskId) : Option Definition → Prop
  | none => roster.isRegistered id = false
  | some definition => definition.id = id ∧ roster.Runs mechanism definition

structure Linked (roster : Roster σ) : Prop where
  ascending : Rows.Ascending roster.entries
  timetable : roster.engine.timetable.Sound
  stands : ∀ id, ∃ standing, roster.Stands mechanism id standing

variable {mechanism} {roster next : Roster σ} {definition : Definition} {id : TaskId}
  {standing : Option Definition}

theorem Runs.isRegistered (runs : roster.Runs mechanism definition) :
    roster.isRegistered definition.id = true := by
  obtain ⟨number, _, found, _⟩ := runs
  simp [Roster.isRegistered, found]

theorem Stands.isRegistered (stands : roster.Stands mechanism id standing) :
    roster.isRegistered id = standing.isSome := by
  cases standing with
  | none => exact stands
  | some definition =>
      obtain ⟨rfl, runs⟩ := stands
      exact runs.isRegistered

theorem start_linked (settings : ScheduleSettings) (gated : Bool) :
    ({ settings, gated } : Roster σ).Linked mechanism where
  ascending := Rows.ascending_nil
  timetable := Timetable.empty_sound
  stands _ := ⟨none, rfl⟩

/-! What leaves the tasks alone. -/

structure Spares (roster next : Roster σ) : Prop where
  entries : next.entries = roster.entries
  timetable : roster.engine.timetable.Sound → next.engine.timetable.Sound
  retains : roster.engine.timetable.Sound → ∀ number,
    roster.engine.timetable.Retains next.engine.timetable number

theorem Spares.of_timetable (entries : next.entries = roster.entries)
    (timetable : next.engine.timetable = roster.engine.timetable) : roster.Spares next where
  entries := entries
  timetable sound := timetable ▸ sound
  retains _ _ := .of_eq (by rw [timetable])

theorem Spares.stands (spares : roster.Spares next) (sound : roster.engine.timetable.Sound)
    (stands : roster.Stands mechanism id standing) : next.Stands mechanism id standing := by
  cases standing with
  | none =>
      have absent : roster.isRegistered id = false := stands
      change next.isRegistered id = false
      rw [isRegistered, spares.entries]
      exact absent
  | some definition =>
      obtain ⟨same, number, entry, registered, found, name, read, duty⟩ := stands
      obtain ⟨moment, kept⟩ := spares.retains sound number entry found
      rw [← spares.entries] at registered
      exact ⟨same, number, _, registered, kept, name, read, duty⟩

theorem Spares.linked (spares : roster.Spares next) (linked : roster.Linked mechanism) :
    next.Linked mechanism where
  ascending := spares.entries ▸ linked.ascending
  timetable := spares.timetable linked.timetable
  stands id := by
    obtain ⟨standing, stands⟩ := linked.stands id
    exact ⟨standing, spares.stands linked.timetable stands⟩

theorem initialise_spares {now : Wall} (initialised : roster.initialise mechanism now = .ok next) :
    roster.Spares next := by
  simp only [initialise, bind, Except.bind, pure, Except.pure] at initialised
  split at initialised
  · cases initialised
    exact .of_timetable rfl rfl
  · split at initialised
    · simp at initialised
    · rename_i added taken
      cases initialised
      obtain ⟨_, timetable, added, same⟩ := Engine.add_eq_ok_iff.mp taken
      refine ⟨rfl, ?_, ?_⟩
      · intro sound
        rw [same, Engine.rouse_timetable]
        exact sound.add added
      · intro sound number
        rw [same, Engine.rouse_timetable]
        exact sound.retains_add added number

theorem aside_spares (roster : Roster σ) (act : Aside) :
    roster.Spares (roster.aside mechanism act) := by
  cases act with
  | initialise now =>
      simp only [aside]
      cases initialised : roster.initialise mechanism now with
      | error reason => exact .of_timetable rfl rfl
      | ok next => exact initialise_spares initialised
  | run loop => exact .of_timetable rfl rfl
  | dismiss => exact .of_timetable rfl (Engine.dismiss_timetable roster.engine)
  | step loop now =>
      simp only [aside]
      split
      · rename_i engine pass stepped
        obtain ⟨found, _, stepped⟩ := Option.bind_eq_some_iff.mp stepped
        rcases Engine.step?_timetable stepped with same | fired
        · exact .of_timetable rfl same
        · refine ⟨rfl, ?_, ?_⟩
          · intro sound
            dsimp only
            rw [fired]
            exact sound.fire mechanism now
          · intro _ number
            dsimp only
            rw [fired]
            exact Timetable.retains_fire mechanism now number
      · exact .of_timetable rfl rfl

/-- A roster whose tasks are linked to its entries, and one task with the definition that it
runs by. -/
structure Keeps (mechanism : Mechanism σ Duty) (roster : Roster σ) (id : TaskId)
    (standing : Option Definition) : Prop where
  linked : roster.Linked mechanism
  stands : roster.Stands mechanism id standing

theorem Keeps.aside (keeps : roster.Keeps mechanism id standing) (act : Aside) :
    (roster.aside mechanism act).Keeps mechanism id standing where
  linked := (roster.aside_spares act).linked keeps.linked
  stands := (roster.aside_spares act).stands keeps.linked.timetable keeps.stands

theorem Keeps.asides (keeps : roster.Keeps mechanism id standing) (acts : List Aside) :
    (acts.foldl (Roster.aside mechanism) roster).Keeps mechanism id standing := by
  induction acts generalizing roster with
  | nil => exact keeps
  | cons act acts ih => exact ih (keeps.aside act)

/-! Taking a task out. -/

theorem Linked.stands_unregister (linked : roster.Linked mechanism)
    (stands : roster.Stands mechanism id standing) (gone : TaskId) :
    (roster.unregister gone).2.Stands mechanism id (if id = gone then none else standing) := by
  by_cases same : id = gone
  · rw [if_pos same]
    change (roster.unregister gone).2.isRegistered id = false
    rw [isRegistered_unregister linked.ascending]
    simp [same]
  · rw [if_neg same]
    cases standing with
    | none =>
        have absent : roster.isRegistered id = false := stands
        change (roster.unregister gone).2.isRegistered id = false
        rw [isRegistered_unregister linked.ascending, absent, Bool.and_false]
    | some definition =>
        obtain ⟨rfl, number, entry, registered, found, name, read, duty⟩ := stands
        refine ⟨rfl, ?_⟩
        cases leaving : Rows.find? gone roster.entries with
        | none =>
            rw [unregister, leaving]
            exact ⟨number, entry, registered, found, name, read, duty⟩
        | some freed =>
            -- Entries tell by their duties whose they are, so the one that goes is another.
            have differ : number ≠ freed := by
              intro equal
              obtain ⟨standing, other⟩ := linked.stands gone
              have isHere := other.isRegistered
              cases standing with
              | none => simp [isRegistered, leaving] at isHere
              | some rival =>
                  obtain ⟨wanted, taken, listed, there, held, _, _, task⟩ := other
                  rw [wanted, leaving, Option.some.injEq] at there
                  rw [← there, ← equal, found, Option.some.injEq] at held
                  rw [← held, duty, Duty.task.injEq] at task
                  exact same (task ▸ wanted)
            simp only [unregister, leaving]
            refine ⟨number, entry, ?_, ?_, name, read, duty⟩
            · dsimp only
              rw [Rows.find?_erase_of_ne linked.ascending same]
              exact registered
            · dsimp only
              rw [Engine.remove_timetable, Timetable.find?_remove, if_neg differ]
              exact found

theorem Linked.unregister (linked : roster.Linked mechanism) (gone : TaskId) :
    (roster.unregister gone).2.Linked mechanism := by
  refine ⟨?_, ?_, ?_⟩
  · simp only [Roster.unregister]
    split
    · exact linked.ascending
    · exact Rows.ascending_erase linked.ascending
  · simp only [Roster.unregister]
    split
    · exact linked.timetable
    · dsimp only
      rw [Engine.remove_timetable]
      exact linked.timetable.remove _
  · intro id
    obtain ⟨standing, stands⟩ := linked.stands id
    exact ⟨_, linked.stands_unregister stands gone⟩

theorem Keeps.unregister (keeps : roster.Keeps mechanism id standing) (gone : TaskId) :
    (roster.unregister gone).2.Keeps mechanism id (if id = gone then none else standing) where
  linked := keeps.linked.unregister gone
  stands := keeps.linked.stands_unregister keeps.stands gone

/-! Taking a task in. -/

section

variable {now : Wall} {number : EntryId} {engine : Engine σ Duty}

theorem Linked.stands_register (linked : roster.Linked mechanism)
    (stands : roster.Stands mechanism id standing)
    (added : roster.engine.add mechanism now definition.name definition.cron (.task definition) =
      .ok (number, engine)) :
    { roster with engine, entries := Rows.put definition.id number roster.entries }.Stands
      mechanism id (if id = definition.id then some definition else standing) := by
  obtain ⟨_, timetable, taken, rfl⟩ := Engine.add_eq_ok_iff.mp added
  by_cases same : id = definition.id
  · rw [if_pos same]
    obtain ⟨schedule, moment, read, _, found⟩ := linked.timetable.find?_add taken
    let entry : Entry σ Duty :=
      { id := number, name := definition.name, schedule, next := some moment
        duty := .task definition }
    refine ⟨same.symm, number, entry, Rows.find?_put_self .., ?_, rfl, read, rfl⟩
    dsimp only
    rw [Engine.rouse_timetable]
    exact found
  · rw [if_neg same]
    cases standing with
    | none =>
        have absent : roster.isRegistered id = false := stands
        change isRegistered _ id = false
        rw [isRegistered_put, absent]
        simp [same]
    | some other =>
        obtain ⟨rfl, held, entry, registered, found, name, read, duty⟩ := stands
        obtain ⟨moment, kept⟩ := linked.timetable.retains_add taken held entry found
        refine ⟨rfl, held, { entry with next := moment }, ?_, ?_, name, read, duty⟩
        · dsimp only
          rw [Rows.find?_put_of_ne _ _ same]
          exact registered
        · dsimp only
          rw [Engine.rouse_timetable]
          exact kept

theorem Keeps.register (keeps : roster.Keeps mechanism id standing)
    (added : roster.engine.add mechanism now definition.name definition.cron (.task definition) =
      .ok (number, engine)) :
    { roster with engine, entries := Rows.put definition.id number roster.entries }.Keeps
      mechanism id (if id = definition.id then some definition else standing) := by
  refine ⟨⟨Rows.ascending_put keeps.linked.ascending, ?_, ?_⟩,
    keeps.linked.stands_register keeps.stands added⟩
  · obtain ⟨_, timetable, taken, rfl⟩ := Engine.add_eq_ok_iff.mp added
    dsimp only
    rw [Engine.rouse_timetable]
    exact keeps.linked.timetable.add taken
  · intro other
    obtain ⟨standing, stands⟩ := keeps.linked.stands other
    exact ⟨_, keeps.linked.stands_register stands added⟩

end

namespace Progress

variable {progress : Progress σ}

theorem keeps_drop (keeps : progress.roster.Keeps mechanism id standing) (gone : TaskId) :
    (progress.drop gone).roster.Keeps mechanism id (if id = gone then none else standing) :=
  keeps.unregister gone

/-- A disabled task goes; an enabled one stays as it is, or comes if the engine takes it. -/
theorem keeps_follow (keeps : progress.roster.Keeps mechanism id standing) (now : Wall)
    (definition : Definition) :
    (progress.follow mechanism now definition).roster.Keeps mechanism id
      (if id = definition.id then
        if definition.enabled then
          standing.or ((progress.roster.engine.add mechanism now definition.name definition.cron
            (.task definition)).toOption.map fun _ => definition)
        else none
      else standing) := by
  have followed := follow_followed progress mechanism now definition
  generalize progress.follow mechanism now definition = result at followed ⊢
  cases followed with
  | dropped disabled =>
      rw [disabled]
      exact keeps_drop keeps definition.id
  | registered enabled absent added =>
      have taken := keeps.register added
      by_cases same : id = definition.id
      · have nothing : standing = none := by
          have here := keeps.stands.isRegistered
          rw [same, absent] at here
          simpa using here.symm
        rw [if_pos same] at taken
        rw [if_pos same, if_pos enabled, nothing, added]
        exact taken
      · rw [if_neg same] at taken
        rw [if_neg same]
        exact taken
  | kept enabled registered =>
      by_cases same : id = definition.id
      · have something : standing.isSome = true := by
          rw [← keeps.stands.isRegistered, same]
          exact registered
        rw [if_pos same, if_pos enabled, Option.or_of_isSome something]
        exact keeps
      · rw [if_neg same]
        exact keeps
  | refused enabled absent refused =>
      by_cases same : id = definition.id
      · rw [if_pos same, if_pos enabled, refused]
        simp only [Except.toOption, Option.map_none, Option.or_none]
        exact keeps
      · rw [if_neg same]
        exact keeps

end Progress

end Roster

end Rota.Schedule
