import Mathlib.Data.List.Induction
import Mathlib.Data.List.Nodup
import Mathlib.Data.List.Perm.Basic
import Mathlib.Logic.Relation
import Rota.Proofs.Schedule.Reloading
import Rota.Proofs.Schedule.Standing

/-!
The pairing of registered tasks with the entries of the engine. Main statement: after any
operations the engine has one entry for each registered task, one that reloads the definitions
if a roster has been initialised, and no others; and no id ever comes to stand for another entry.
-/

namespace Rota.Schedule

namespace Timetable

variable {σ δ : Type} {mechanism : Mechanism σ δ} {now : Wall} {timetable next last : Timetable σ δ}
  {name expression : String} {duty : δ} {id other : EntryId}

def duty? (timetable : Timetable σ δ) (id : EntryId) : Option δ :=
  (timetable.find? id).map Entry.duty

theorem Sound.duty?_add (sound : timetable.Sound)
    (added : timetable.add mechanism now name expression duty = .ok (id, next)) :
    next.duty? other = if other = id then some duty else timetable.duty? other := by
  by_cases same : other = id
  · obtain ⟨schedule, moment, _, _, found⟩ := sound.find?_add added
    rw [if_pos same, same, duty?, found, Option.map_some]
  · rw [if_neg same, duty?, find?_add_of_ne added same, duty?]

theorem Sound.lt_of_duty? (sound : timetable.Sound) (found : timetable.duty? id = some duty) :
    id < timetable.nextId := by
  obtain ⟨entry, stood, _⟩ := Option.map_eq_some_iff.mp found
  obtain ⟨member, same⟩ := mem_of_find? stood
  exact same ▸ sound.issued entry member

theorem contains_of_duty? (found : timetable.duty? id = some duty) :
    timetable.contains id = true := by
  obtain ⟨entry, stood, _⟩ := Option.map_eq_some_iff.mp found
  rw [contains, stood]
  rfl

theorem duty?_remove :
    (timetable.remove id).2.duty? other = if other = id then none else timetable.duty? other := by
  rw [duty?, find?_remove]
  split <;> rfl

theorem duty?_fire : (timetable.fire mechanism now).2.duty? id = timetable.duty? id := by
  rw [duty?, find?_fire, Option.map_map, duty?]
  congr 1
  funext entry
  simp only [Function.comp]
  split <;> rfl

/-- A later timetable, in which the ids that were given out stand for what they stood for, but
for its next time, or for nothing any more. -/
structure Follows (timetable next : Timetable σ δ) : Prop where
  issued : timetable.nextId ≤ next.nextId
  same : ∀ id < timetable.nextId, ∀ entry, next.find? id = some entry →
    ∃ moment, timetable.find? id = some { entry with next := moment }

theorem Follows.refl (timetable : Timetable σ δ) : timetable.Follows timetable :=
  ⟨Nat.le_refl _, fun _ _ entry found => ⟨entry.next, found⟩⟩

theorem Follows.trans (earlier : timetable.Follows next) (later : next.Follows last) :
    timetable.Follows last := by
  refine ⟨Nat.le_trans earlier.issued later.issued, ?_⟩
  intro id old entry found
  obtain ⟨moment, before⟩ := later.same id (Nat.lt_of_lt_of_le old earlier.issued) entry found
  exact earlier.same id old { entry with next := moment } before

theorem follows_add (added : timetable.add mechanism now name expression duty = .ok (id, next)) :
    timetable.Follows next := by
  obtain ⟨fresh, _, _, _, _, made⟩ := add_ok added
  refine ⟨?_, ?_⟩
  · rw [made, fresh]
    exact Nat.le_succ _
  · intro other old entry found
    rw [find?_add_of_ne added (fresh ▸ Nat.ne_of_lt old)] at found
    exact ⟨entry.next, found⟩

theorem follows_remove : timetable.Follows (timetable.remove id).2 := by
  refine ⟨Nat.le_refl _, ?_⟩
  intro other _ entry found
  rw [find?_remove] at found
  split at found
  · simp at found
  · exact ⟨entry.next, found⟩

theorem follows_fire : timetable.Follows (timetable.fire mechanism now).2 := by
  refine ⟨Nat.le_refl _, ?_⟩
  intro id _ entry found
  rw [find?_fire, Option.map_eq_some_iff] at found
  obtain ⟨before, stood, rfl⟩ := found
  refine ⟨before.next, ?_⟩
  rw [stood]
  split <;> rfl

end Timetable

namespace Roster

variable {σ : Type} {mechanism : Mechanism σ Duty} {now : Wall} {roster next last : Roster σ}

/-- One change of the tasks or of the timetable. -/
inductive Revises (roster next : Roster σ) : Prop
  | untouched : next.entries = roster.entries → next.reloadEntry = roster.reloadEntry →
      next.engine.timetable = roster.engine.timetable → Revises roster next
  | fired (mechanism : Mechanism σ Duty) (now : Wall) : next.entries = roster.entries →
      next.reloadEntry = roster.reloadEntry →
      next.engine.timetable = (roster.engine.timetable.fire mechanism now).2 →
      Revises roster next
  | registered (mechanism : Mechanism σ Duty) (now : Wall) {number : EntryId}
      {definition : Definition} : roster.isRegistered definition.id = false →
      next.entries = Rows.put definition.id number roster.entries →
      next.reloadEntry = roster.reloadEntry →
      roster.engine.timetable.add mechanism now definition.name definition.cron
        (.task definition) = .ok (number, next.engine.timetable) → Revises roster next
  | unregistered {id : TaskId} {number : EntryId} : Rows.find? id roster.entries = some number →
      next.entries = Rows.erase id roster.entries → next.reloadEntry = roster.reloadEntry →
      next.engine.timetable = (roster.engine.timetable.remove number).2 → Revises roster next

/-- The entry comes that reloads the definitions. -/
structure Gains (mechanism : Mechanism σ Duty) (now : Wall) (roster next : Roster σ) : Prop where
  entries : next.entries = roster.entries
  absent : roster.reloadEntry = none
  added : ∃ number, next.reloadEntry = some number ∧
    roster.engine.timetable.add mechanism now reloadName roster.settings.reloadCron .reload =
      .ok (number, next.engine.timetable)

/-- Whose an entry is, by its duty. -/
def Owns (roster : Roster σ) (number : EntryId) : Duty → Prop
  | .reload => roster.reloadEntry = some number
  | .task definition => Rows.find? definition.id roster.entries = some number
  | .work _ => False

/-- Tasks and entries belong to each other. -/
structure Paired (roster : Roster σ) : Prop where
  ascending : Rows.Ascending roster.entries
  timetable : roster.engine.timetable.Sound
  tasks : ∀ id number, Rows.find? id roster.entries = some number →
    ∃ definition, roster.engine.timetable.duty? number = some (.task definition) ∧
      definition.id = id
  reload : ∀ number, roster.reloadEntry = some number →
    roster.engine.timetable.duty? number = some .reload
  owned : ∀ number duty, roster.engine.timetable.duty? number = some duty →
    roster.Owns number duty

theorem start_paired (settings : ScheduleSettings) (gated : Bool) :
    ({ settings, gated } : Roster σ).Paired where
  ascending := Rows.ascending_nil
  timetable := Timetable.empty_sound
  tasks := by simp [Rows.find?]
  reload := by simp
  owned := by simp [Timetable.duty?, Timetable.find?]

theorem Owns.of_eq {number : EntryId} {duty : Duty} (owns : roster.Owns number duty)
    (entries : next.entries = roster.entries)
    (reloadEntry : next.reloadEntry = roster.reloadEntry) : next.Owns number duty := by
  cases duty with
  | reload => exact reloadEntry.trans owns
  | task definition => exact (congrArg (Rows.find? definition.id) entries).trans owns
  | work => exact owns

theorem Paired.of_duties (paired : roster.Paired) (entries : next.entries = roster.entries)
    (reloadEntry : next.reloadEntry = roster.reloadEntry)
    (timetable : next.engine.timetable.Sound)
    (duties : ∀ number, next.engine.timetable.duty? number = roster.engine.timetable.duty? number) :
    next.Paired where
  ascending := entries ▸ paired.ascending
  timetable := timetable
  tasks := by simpa [entries, duties] using paired.tasks
  reload := by simpa [reloadEntry, duties] using paired.reload
  owned number duty found := (paired.owned number duty (duties number ▸ found)).of_eq entries
    reloadEntry

section

variable {number : EntryId} {definition : Definition}

/-- A number that is given out has belonged to nobody. -/
theorem Paired.fresh (paired : roster.Paired) {timetable : Timetable σ Duty}
    {name expression : String} {duty held : Duty} {other : EntryId}
    (added : roster.engine.timetable.add mechanism now name expression duty =
      .ok (number, timetable))
    (found : roster.engine.timetable.duty? other = some held) : other ≠ number := by
  have old := paired.timetable.lt_of_duty? found
  obtain ⟨fresh, _⟩ := Timetable.add_ok added
  exact fresh ▸ Nat.ne_of_lt old

theorem Gains.paired (gains : roster.Gains mechanism now next) (paired : roster.Paired) :
    next.Paired := by
  obtain ⟨entries, absent, number, reloadEntry, added⟩ := gains
  have duties (other : EntryId) : next.engine.timetable.duty? other =
      if other = number then some .reload else roster.engine.timetable.duty? other :=
    paired.timetable.duty?_add added
  refine ⟨entries ▸ paired.ascending, paired.timetable.add added, ?_, ?_, ?_⟩
  · intro id other found
    obtain ⟨definition, duty, same⟩ := paired.tasks id other (entries ▸ found)
    refine ⟨definition, ?_, same⟩
    rw [duties, if_neg (paired.fresh added duty)]
    exact duty
  · intro other found
    obtain rfl : number = other := Option.some.inj (reloadEntry.symm.trans found)
    rw [duties, if_pos rfl]
  · intro other duty found
    rw [duties] at found
    split at found
    · rename_i same
      cases found
      exact same ▸ reloadEntry
    · have owns := paired.owned other duty found
      cases duty with
      | reload => exact absurd (absent.symm.trans owns) (by simp)
      | task definition => exact (congrArg (Rows.find? definition.id) entries).trans owns
      | work => exact owns

theorem Paired.registered (paired : roster.Paired)
    (absent : roster.isRegistered definition.id = false)
    (entries : next.entries = Rows.put definition.id number roster.entries)
    (reloadEntry : next.reloadEntry = roster.reloadEntry)
    (added : roster.engine.timetable.add mechanism now definition.name definition.cron
      (.task definition) = .ok (number, next.engine.timetable)) : next.Paired := by
  have duties (other : EntryId) : next.engine.timetable.duty? other =
      if other = number then some (.task definition)
      else roster.engine.timetable.duty? other := paired.timetable.duty?_add added
  refine ⟨entries ▸ Rows.ascending_put paired.ascending, paired.timetable.add added, ?_, ?_, ?_⟩
  · intro id other found
    rw [entries] at found
    by_cases same : id = definition.id
    · subst same
      obtain rfl : number = other := by simpa [Rows.find?_put_self] using found
      exact ⟨definition, by rw [duties, if_pos rfl], rfl⟩
    · rw [Rows.find?_put_of_ne _ _ same] at found
      obtain ⟨held, duty, held_id⟩ := paired.tasks id other found
      refine ⟨held, ?_, held_id⟩
      rw [duties, if_neg (paired.fresh added duty)]
      exact duty
  · intro other found
    have duty := paired.reload other (reloadEntry ▸ found)
    rw [duties, if_neg (paired.fresh added duty)]
    exact duty
  · intro other duty found
    rw [duties] at found
    split at found
    · rename_i same
      cases found
      change Rows.find? definition.id next.entries = some other
      rw [entries, Rows.find?_put_self, same]
    · have owns := paired.owned other duty found
      cases duty with
      | reload => exact reloadEntry.trans owns
      | task held =>
          have listed : Rows.find? held.id roster.entries = some other := owns
          have differ : held.id ≠ definition.id := by
            intro same
            rw [← same, isRegistered, listed] at absent
            simp at absent
          change Rows.find? held.id next.entries = some other
          rw [entries, Rows.find?_put_of_ne _ _ differ]
          exact listed
      | work => exact owns

theorem Paired.unregistered (paired : roster.Paired) {id : TaskId}
    (listed : Rows.find? id roster.entries = some number)
    (entries : next.entries = Rows.erase id roster.entries)
    (reloadEntry : next.reloadEntry = roster.reloadEntry)
    (timetable : next.engine.timetable = (roster.engine.timetable.remove number).2) :
    next.Paired := by
  have duties (other : EntryId) : next.engine.timetable.duty? other =
      if other = number then none else roster.engine.timetable.duty? other :=
    timetable ▸ Timetable.duty?_remove
  obtain ⟨gone, duty, gone_id⟩ := paired.tasks id number listed
  refine ⟨entries ▸ Rows.ascending_erase paired.ascending, ?_, ?_, ?_, ?_⟩
  · exact timetable ▸ paired.timetable.remove number
  · intro other held found
    rw [entries] at found
    by_cases same : other = id
    · subst same
      simp [Rows.find?_erase_self paired.ascending] at found
    · rw [Rows.find?_erase_of_ne paired.ascending same] at found
      obtain ⟨kept, keptDuty, kept_id⟩ := paired.tasks other held found
      -- An entry tells by its duty whose it is.
      have differ : held ≠ number := by
        rintro rfl
        rw [duty, Option.some.injEq, Duty.task.injEq] at keptDuty
        exact same (kept_id.symm.trans (keptDuty ▸ gone_id))
      refine ⟨kept, ?_, kept_id⟩
      rw [duties, if_neg differ]
      exact keptDuty
  · intro other found
    have keptDuty := paired.reload other (reloadEntry ▸ found)
    have differ : other ≠ number := by
      rintro rfl
      simp [duty] at keptDuty
    rw [duties, if_neg differ]
    exact keptDuty
  · intro other held found
    rw [duties] at found
    split at found
    · simp at found
    · rename_i differ
      have owns := paired.owned other held found
      cases held with
      | reload => exact reloadEntry.trans owns
      | task kept =>
          have keptListed : Rows.find? kept.id roster.entries = some other := owns
          have apart : kept.id ≠ id := by
            intro same
            rw [same, listed, Option.some.injEq] at keptListed
            exact differ keptListed.symm
          change Rows.find? kept.id next.entries = some other
          rw [entries, Rows.find?_erase_of_ne paired.ascending apart]
          exact keptListed
      | work => exact owns

end

namespace Revises

theorem paired (revises : roster.Revises next) (paired : roster.Paired) : next.Paired := by
  cases revises with
  | untouched entries reloadEntry timetable =>
      exact paired.of_duties entries reloadEntry (timetable ▸ paired.timetable)
        fun number => timetable ▸ rfl
  | fired mechanism now entries reloadEntry timetable =>
      exact paired.of_duties entries reloadEntry (timetable ▸ paired.timetable.fire mechanism now)
        fun number => timetable ▸ Timetable.duty?_fire
  | registered mechanism now absent entries reloadEntry added =>
      exact paired.registered absent entries reloadEntry added
  | unregistered listed entries reloadEntry timetable =>
      exact paired.unregistered listed entries reloadEntry timetable

theorem follows (revises : roster.Revises next) :
    roster.engine.timetable.Follows next.engine.timetable := by
  cases revises with
  | untouched _ _ timetable => exact timetable ▸ .refl _
  | fired _ _ _ _ timetable => exact timetable ▸ Timetable.follows_fire
  | registered _ _ _ _ _ added => exact Timetable.follows_add added
  | unregistered _ _ _ timetable => exact timetable ▸ Timetable.follows_remove

theorem reloadEntry (revises : roster.Revises next) : next.reloadEntry = roster.reloadEntry := by
  cases revises with
  | untouched _ same _ => exact same
  | fired _ _ _ same _ => exact same
  | registered _ _ _ _ same _ => exact same
  | unregistered _ _ same _ => exact same

end Revises

/-! Operations are chains of such changes. -/

def Reaches (roster next : Roster σ) : Prop := Relation.ReflTransGen Revises roster next

namespace Reaches

theorem paired (reaches : roster.Reaches next) (paired : roster.Paired) : next.Paired := by
  induction reaches with
  | refl => exact paired
  | tail _ revises ih => exact revises.paired ih

theorem follows (reaches : roster.Reaches next) :
    roster.engine.timetable.Follows next.engine.timetable := by
  induction reaches with
  | refl => exact .refl _
  | tail _ revises ih => exact ih.trans revises.follows

theorem reloadEntry (reaches : roster.Reaches next) : next.reloadEntry = roster.reloadEntry := by
  induction reaches with
  | refl => rfl
  | tail _ revises ih => exact revises.reloadEntry.trans ih

end Reaches

theorem reaches_unregister (roster : Roster σ) (id : TaskId) :
    roster.Reaches (roster.unregister id).2 := by
  cases listed : Rows.find? id roster.entries with
  | none =>
      rw [unregister, listed]
      exact .refl
  | some number =>
      rw [unregister, listed]
      exact .single (.unregistered listed rfl rfl (Engine.remove_timetable number roster.engine))

theorem reaches_follow (progress : Progress σ) (mechanism : Mechanism σ Duty) (now : Wall)
    (definition : Definition) :
    progress.roster.Reaches (progress.follow mechanism now definition).roster := by
  have followed := progress.follow_followed mechanism now definition
  generalize progress.follow mechanism now definition = result at followed ⊢
  cases followed with
  | dropped => exact reaches_unregister progress.roster definition.id
  | registered _ absent added _ =>
      obtain ⟨_, timetable, taken, rfl⟩ := Engine.add_eq_ok_iff.mp added
      refine .single (.registered mechanism now absent rfl rfl ?_)
      rw [Engine.rouse_timetable]
      exact taken
  | kept => exact .refl
  | refused => exact .refl

theorem reaches_foldl {α : Type} {step : Progress σ → α → Progress σ}
    (reaches : ∀ progress item, Reaches progress.roster (step progress item).roster)
    (items : List α) (progress : Progress σ) :
    progress.roster.Reaches (items.foldl step progress).roster := by
  induction items generalizing progress with
  | nil => exact .refl
  | cons item items ih => exact (reaches progress item).trans (ih (step progress item))

theorem reaches_reconcile (roster : Roster σ) (mechanism : Mechanism σ Duty) (now : Wall)
    (definitions : List Definition) :
    roster.Reaches (roster.reconcile mechanism now definitions).roster := by
  have followed := reaches_foldl
    (fun progress definition => reaches_follow progress mechanism now definition) definitions
    { roster }
  refine followed.trans (reaches_foldl ?_ _ _)
  exact fun progress id => reaches_unregister progress.roster id

theorem reaches_applyReload (roster : Roster σ) (mechanism : Mechanism σ Duty) (now : Wall)
    (ticket : Nat) (definitions : List Definition) :
    roster.Reaches (roster.applyReload mechanism now ticket definitions).roster := by
  simp only [applyReload]
  split
  · exact .refl
  · have noted : roster.Revises { roster with applied := ticket } := .untouched rfl rfl rfl
    exact (Relation.ReflTransGen.single noted).trans (reaches_reconcile _ mechanism now definitions)

theorem initialise_cases (initialised : roster.initialise mechanism now = .ok next) :
    roster.reloadEntry.isSome = true ∧ next = roster ∨ roster.Gains mechanism now next := by
  simp only [initialise, bind, Except.bind, pure, Except.pure] at initialised
  split at initialised
  · rename_i present
    cases initialised
    exact .inl ⟨present, rfl⟩
  · rename_i absent
    split at initialised
    · simp at initialised
    · rename_i added taken
      cases initialised
      obtain ⟨_, timetable, accepted, same⟩ := Engine.add_eq_ok_iff.mp taken
      refine .inr ⟨rfl, by simpa using absent, added.1, rfl, ?_⟩
      rw [same, Engine.rouse_timetable]
      exact accepted

/-- What can be asked of a roster, and what its engine does. A reload that fails to read the
definitions is one that is called for and never applied. -/
inductive Operation where
  | initialise (now : Wall)
  /-- Initialises the roster, and starts a loop of the engine if that succeeds. -/
  | run (now : Wall) (loop : Nat)
  | dismiss
  | step (loop : Nat) (now : Wall)
  | call
  | apply (ticket : Nat) (now : Wall) (definitions : List Definition)

variable (mechanism) in
def operate (roster : Roster σ) : Operation → Roster σ
  | .initialise now => roster.aside mechanism (.initialise now)
  | .run now loop =>
    match roster.initialise mechanism now with
    | .ok ready => ready.aside mechanism (.run loop)
    | .error _ => roster
  | .dismiss => roster.aside mechanism .dismiss
  | .step loop now => roster.aside mechanism (.step loop now)
  | .call => roster.beginReload.2
  | .apply ticket now definitions => (roster.applyReload mechanism now ticket definitions).roster

variable (mechanism) in
def through (roster : Roster σ) (operations : List Operation) : Roster σ :=
  operations.foldl (operate mechanism) roster

def Operation.initialisesAt? : Operation → Option Wall
  | .initialise now => some now
  | .run now _ => some now
  | _ => none

/-- The operation initialises the roster, and succeeds. -/
def Initialises (mechanism : Mechanism σ Duty) (roster : Roster σ) (operation : Operation) : Prop :=
  ∃ now ready, operation.initialisesAt? = some now ∧ roster.initialise mechanism now = .ok ready

theorem reaches_aside_step (roster : Roster σ) (mechanism : Mechanism σ Duty) (loop : Nat)
    (now : Wall) : roster.Reaches (roster.aside mechanism (.step loop now)) := by
  simp only [aside]
  split
  · rename_i engine pass stepped
    obtain ⟨found, _, stepped⟩ := Option.bind_eq_some_iff.mp stepped
    rcases Engine.step?_timetable stepped with same | fired
    · exact .single (.untouched rfl rfl same)
    · exact .single (.fired mechanism now rfl rfl fired)
  · exact .refl

/-- What comes of an operation: changes one after another, and before them the entry that reloads
the definitions, if it was to come and was not there. -/
inductive Operated (mechanism : Mechanism σ Duty) (roster : Roster σ) (operation : Operation)
    (next : Roster σ) : Prop
  | revised : roster.Reaches next →
      (roster.Initialises mechanism operation → roster.reloadEntry.isSome = true) →
      Operated mechanism roster operation next
  | gained {now : Wall} {ready : Roster σ} : roster.Initialises mechanism operation →
      roster.Gains mechanism now ready → ready.Reaches next →
      Operated mechanism roster operation next

section

variable {operation : Operation}

theorem operated_otherwise (otherwise : operation.initialisesAt? = none)
    (reaches : roster.Reaches next) : Operated mechanism roster operation next := by
  refine .revised reaches ?_
  rintro ⟨now, ready, timed, _⟩
  simp [otherwise] at timed

theorem operated_initialising (timed : operation.initialisesAt? = some now)
    (failed : ∀ error, roster.initialise mechanism now = .error error → next = roster)
    (succeeded : ∀ ready, roster.initialise mechanism now = .ok ready → ready.Reaches next) :
    Operated mechanism roster operation next := by
  cases initialised : roster.initialise mechanism now with
  | error error =>
      rw [failed error initialised]
      refine .revised .refl ?_
      rintro ⟨moment, ready, timedToo, succeeds⟩
      obtain rfl := Option.some.inj (timed.symm.trans timedToo)
      simp [initialised] at succeeds
  | ok ready =>
      have reaches := succeeded ready initialised
      rcases initialise_cases initialised with ⟨present, rfl⟩ | gains
      · exact .revised reaches fun _ => present
      · exact .gained ⟨now, ready, timed, initialised⟩ gains reaches

theorem operate_operated (roster : Roster σ) (operation : Operation) :
    Operated mechanism roster operation (roster.operate mechanism operation) := by
  cases operation with
  | initialise now =>
      apply operated_initialising rfl
      · intro error failed
        simp [operate, aside, failed, Except.toOption]
      · intro ready initialised
        simp only [operate, aside, initialised, Except.toOption, Option.getD_some]
        exact .refl
  | run now loop =>
      apply operated_initialising rfl
      · intro error failed
        simp [operate, failed]
      · intro ready initialised
        simp only [operate, initialised]
        exact .single (.untouched rfl rfl rfl)
  | dismiss =>
      exact operated_otherwise rfl
        (.single (.untouched rfl rfl (Engine.dismiss_timetable roster.engine)))
  | step loop now => exact operated_otherwise rfl (reaches_aside_step roster mechanism loop now)
  | call => exact operated_otherwise rfl (.single (.untouched rfl rfl rfl))
  | apply ticket now definitions =>
      exact operated_otherwise rfl (reaches_applyReload roster mechanism now ticket definitions)

namespace Operated

variable (operated : Operated mechanism roster operation next)

include operated

theorem paired (paired : roster.Paired) : next.Paired := by
  cases operated with
  | revised reaches => exact reaches.paired paired
  | gained _ gains reaches => exact reaches.paired (gains.paired paired)

theorem follows : roster.engine.timetable.Follows next.engine.timetable := by
  cases operated with
  | revised reaches => exact reaches.follows
  | gained _ gains reaches =>
      obtain ⟨_, _, number, _, added⟩ := gains
      exact (Timetable.follows_add added).trans reaches.follows

theorem keeps_reloadEntry {number : EntryId} (present : roster.reloadEntry = some number) :
    next.reloadEntry = some number := by
  cases operated with
  | revised reaches => exact reaches.reloadEntry.trans present
  | gained _ gains _ => exact absurd (gains.absent.symm.trans present) (by simp)

theorem isSome_reloadEntry : next.reloadEntry.isSome = true ↔
    roster.reloadEntry.isSome = true ∨ roster.Initialises mechanism operation := by
  cases operated with
  | revised reaches already =>
      rw [reaches.reloadEntry]
      exact ⟨.inl, fun initialised => initialised.elim id already⟩
  | gained initialises gains reaches =>
      obtain ⟨_, _, number, reloadEntry, _⟩ := gains
      rw [reaches.reloadEntry, reloadEntry]
      exact ⟨fun _ => .inr initialises, fun _ => rfl⟩

end Operated

end

/-! Runs. -/

variable {operations : List Operation}

theorem Paired.through (paired : roster.Paired) : (roster.through mechanism operations).Paired := by
  induction operations generalizing roster with
  | nil => exact paired
  | cons operation operations ih => exact ih ((operate_operated roster operation).paired paired)

theorem follows_through (roster : Roster σ) (operations : List Operation) :
    roster.engine.timetable.Follows (roster.through mechanism operations).engine.timetable := by
  induction operations generalizing roster with
  | nil => exact .refl _
  | cons operation operations ih => exact (operate_operated roster operation).follows.trans (ih _)

theorem reloadEntry_through {number : EntryId} (present : roster.reloadEntry = some number) :
    (roster.through mechanism operations).reloadEntry = some number := by
  induction operations generalizing roster with
  | nil => exact present
  | cons operation operations ih =>
      exact ih ((operate_operated roster operation).keeps_reloadEntry present)

theorem isSome_reloadEntry_through (absent : roster.reloadEntry = none) :
    (roster.through mechanism operations).reloadEntry.isSome = true ↔
      ∃ before operation rest, operations = before ++ operation :: rest ∧
        (roster.through mechanism before).Initialises mechanism operation := by
  induction operations using List.reverseRecOn with
  | nil => simp [through, absent]
  | append_singleton operations last ih =>
      have operated : Operated mechanism (roster.through mechanism operations) last _ :=
        operate_operated (roster.through mechanism operations) last
      have same : roster.through mechanism (operations ++ [last]) =
          (roster.through mechanism operations).operate mechanism last := by
        simp [through, List.foldl_append]
      rw [same, operated.isSome_reloadEntry, ih]
      constructor
      · rintro (⟨before, operation, rest, rfl, initialises⟩ | initialises)
        · exact ⟨before, operation, rest ++ [last], by simp, initialises⟩
        · exact ⟨operations, last, [], rfl, initialises⟩
      · rintro ⟨before, operation, rest, split, initialises⟩
        rcases append_singleton_eq_split.mp split with ⟨rfl, rfl, _⟩ | ⟨rest, _, rfl⟩
        · exact .inr initialises
        · exact .inl ⟨before, operation, rest, rfl, initialises⟩

/-! What the pairing says of ids. -/

namespace Paired

variable {number : EntryId} {id other : TaskId}

theorem injective (paired : roster.Paired) (here : Rows.find? id roster.entries = some number)
    (there : Rows.find? other roster.entries = some number) : id = other := by
  obtain ⟨definition, duty, rfl⟩ := paired.tasks id number here
  obtain ⟨rival, same, rfl⟩ := paired.tasks other number there
  rw [duty, Option.some.injEq, Duty.task.injEq] at same
  rw [same]

theorem mem_values (paired : roster.Paired) :
    number ∈ Rows.values roster.entries ↔ ∃ id, Rows.find? id roster.entries = some number := by
  constructor
  · intro member
    obtain ⟨⟨id, value⟩, listed, rfl⟩ := List.mem_map.mp member
    exact ⟨id, Rows.find?_of_mem paired.ascending listed⟩
  · rintro ⟨id, found⟩
    exact List.mem_map.mpr ⟨_, Rows.mem_of_find? found, rfl⟩

theorem values_nodup (paired : roster.Paired) : (Rows.values roster.entries).Nodup := by
  rw [Rows.values, List.Nodup, List.pairwise_map]
  refine paired.ascending.imp_of_mem ?_
  rintro ⟨id, number⟩ ⟨other, held⟩ member memberToo before same
  dsimp only at same
  subst same
  have equal := paired.injective (Rows.find?_of_mem paired.ascending member)
    (Rows.find?_of_mem paired.ascending memberToo)
  simp [equal] at before

theorem mem_ids (paired : roster.Paired) :
    number ∈ roster.engine.timetable.entries.map Entry.id ↔
      ∃ duty, roster.engine.timetable.duty? number = some duty := by
  constructor
  · intro member
    obtain ⟨entry, listed, rfl⟩ := List.mem_map.mp member
    refine ⟨entry.duty, ?_⟩
    rw [Timetable.duty?, paired.timetable.find?_of_mem listed, Option.map_some]
  · rintro ⟨duty, found⟩
    obtain ⟨entry, stood, _⟩ := Option.map_eq_some_iff.mp found
    obtain ⟨member, same⟩ := Timetable.mem_of_find? stood
    exact List.mem_map.mpr ⟨entry, member, same⟩

/-- The ids of the entries are those of the tasks, and that of the reload. -/
theorem ids_perm (paired : roster.Paired) :
    (roster.engine.timetable.entries.map Entry.id).Perm
      (Rows.values roster.entries ++ roster.reloadEntry.toList) := by
  have ids : (roster.engine.timetable.entries.map Entry.id).Nodup := by
    rw [List.Nodup, List.pairwise_map]
    exact paired.timetable.ascending.imp fun below => Nat.ne_of_lt below
  have numbers : (Rows.values roster.entries ++ roster.reloadEntry.toList).Nodup := by
    refine List.nodup_append.mpr ⟨paired.values_nodup, ?_, ?_⟩
    · cases roster.reloadEntry <;> simp
    · rintro number member reload present rfl
      obtain ⟨id, found⟩ := paired.mem_values.mp member
      obtain ⟨definition, duty, _⟩ := paired.tasks id number found
      have other := paired.reload number (Option.mem_toList.mp present)
      simp [duty] at other
  rw [List.perm_ext_iff_of_nodup ids numbers]
  intro number
  rw [paired.mem_ids, List.mem_append, paired.mem_values, Option.mem_toList]
  constructor
  · rintro ⟨duty, found⟩
    have owns := paired.owned number duty found
    cases duty with
    | reload => exact .inr owns
    | task definition => exact .inl ⟨definition.id, owns⟩
    | work => exact owns.elim
  · rintro (⟨id, found⟩ | reload)
    · obtain ⟨definition, duty, _⟩ := paired.tasks id number found
      exact ⟨_, duty⟩
    · exact ⟨_, paired.reload number reload⟩

theorem size (paired : roster.Paired) : roster.engine.timetable.size =
    roster.registeredIds.length + if roster.reloadEntry.isSome then 1 else 0 := by
  have same := paired.ids_perm.length_eq
  rw [List.length_map, List.length_append, Rows.values, List.length_map] at same
  rw [Timetable.size, same, registeredIds, Rows.keys, List.length_map]
  cases roster.reloadEntry <;> rfl

end Paired

/-- After any operations each task has an entry of its own, the engine has no other entries but
the one that reloads the definitions once a roster was initialised, that one stays, and what an
id stood for, or stood for no more, it goes on to. -/
theorem tasks_paired_with_entries (settings : ScheduleSettings) (gated : Bool)
    {operations later : List Operation}
    (reached : ({ settings, gated } : Roster σ).through mechanism operations = roster)
    (reachedLater : roster.through mechanism later = last) :
    (∀ id other number, Rows.find? id roster.entries = some number →
      Rows.find? other roster.entries = some number → id = other) ∧
    (∀ id number, Rows.find? id roster.entries = some number →
      roster.engine.timetable.contains number = true) ∧
    (roster.engine.timetable.entries.map Entry.id).Perm
      (Rows.values roster.entries ++ roster.reloadEntry.toList) ∧
    roster.engine.timetable.size =
      roster.registeredIds.length + (if roster.reloadEntry.isSome then 1 else 0) ∧
    (roster.reloadEntry.isSome = true ↔
      ∃ before operation rest, operations = before ++ operation :: rest ∧
        (({ settings, gated } : Roster σ).through mechanism before).Initialises mechanism
          operation) ∧
    (∀ entry ∈ roster.engine.timetable.entries,
      entry.duty = .reload ↔ roster.reloadEntry = some entry.id) ∧
    (∀ number, roster.reloadEntry = some number →
      last.reloadEntry = some number ∧ last.engine.timetable.contains number = true) ∧
    (∀ number < roster.engine.timetable.nextId, ∀ entry,
      last.engine.timetable.find? number = some entry →
        ∃ moment, roster.engine.timetable.find? number = some { entry with next := moment }) := by
  have paired : roster.Paired := reached ▸ (start_paired settings gated).through
  have pairedLater : last.Paired := reachedLater ▸ paired.through
  refine ⟨fun _ _ _ => paired.injective, ?_, paired.ids_perm, paired.size, ?_, ?_, ?_, ?_⟩
  · intro id number found
    obtain ⟨definition, duty, _⟩ := paired.tasks id number found
    exact Timetable.contains_of_duty? duty
  · rw [← reached]
    exact isSome_reloadEntry_through rfl
  · intro entry member
    have found : roster.engine.timetable.duty? entry.id = some entry.duty := by
      rw [Timetable.duty?, paired.timetable.find?_of_mem member, Option.map_some]
    constructor
    · intro reload
      exact paired.owned entry.id .reload (reload ▸ found)
    · intro reload
      exact Option.some.inj (found.symm.trans (paired.reload entry.id reload))
  · intro number present
    have stays : last.reloadEntry = some number := reachedLater ▸ reloadEntry_through present
    exact ⟨stays, Timetable.contains_of_duty? (pairedLater.reload number stays)⟩
  · exact reachedLater ▸ (follows_through roster later).same

end Roster

/-- A reload brings two tasks; the next takes one of them out and brings another. -/
def turnover : List Roster.Operation :=
  [.initialise 0, .call, .apply 1 0 [sweep, { sweep with id := 2 }], .call,
    .apply 2 60 [paused, { sweep with id := 2 }, { sweep with id := 3 }]]

theorem turnover_keeps_pairing :
    ∃ roster last : Roster Unit, ({} : Roster Unit).through everySecond (turnover.take 3) = roster ∧
      roster.through everySecond (turnover.drop 3) = last ∧
      (roster.engine.timetable.entries.map Entry.id).Perm [2, 3, 1] ∧
      Rows.find? 3 last.entries = some 4 ∧ last.engine.timetable.contains 1 = true := by
  have paired := Roster.tasks_paired_with_entries {} false
    (rfl : ({} : Roster Unit).through everySecond (turnover.take 3) = _)
    (rfl : Roster.through everySecond _ (turnover.drop 3) = _)
  exact ⟨_, _, rfl, rfl, paired.2.2.1, rfl, (paired.2.2.2.2.2.2.1 1 rfl).2⟩

end Rota.Schedule
