import Rota.Proofs.Schedule.Pairing
import Rota.Proofs.Schedule.Vigilance

/-!
What a roster and the work under way do to the engine: they add entries and remove them, and
nothing else. Main statement: whose duties the entries have that came in the meantime.
-/

namespace Rota.Schedule

/-- The duty of an entry that a roster adds, for definitions that it knows. -/
def Duty.ComesFrom (known : Definition → Prop) : Duty → Prop
  | .reload => True
  | .task definition => known definition ∧ definition.enabled = true
  | .work _ => False

variable {σ : Type} {known : Definition → Prop} {mechanism : Mechanism σ Duty} {now : Wall}

namespace Engine

variable {engine next last : Engine σ Duty} {number : EntryId} {duty : Duty}

inductive Touched (known : Definition → Prop) (engine : Engine σ Duty) : Engine σ Duty → Prop
  | added {mechanism now name expression duty number next} : duty.ComesFrom known →
      engine.add mechanism now name expression duty = .ok (number, next) →
      Touched known engine next
  | removed (number : EntryId) : Touched known engine (engine.remove number).2

def Touches (known : Definition → Prop) (engine next : Engine σ Duty) : Prop :=
  Relation.ReflTransGen (Touched known) engine next

/-- What adding and removing keep is kept by all dealings. -/
theorem Touches.keeps (touches : engine.Touches known next) (holds : Engine σ Duty → Prop)
    (added : ∀ {mechanism now name expression duty number} {engine next : Engine σ Duty},
      duty.ComesFrom known → engine.add mechanism now name expression duty = .ok (number, next) →
      holds engine → holds next)
    (removed : ∀ {engine : Engine σ Duty} (number : EntryId), holds engine →
      holds (engine.remove number).2)
    (initial : holds engine) : holds next := by
  induction touches with
  | refl => exact initial
  | tail _ touched ih =>
      cases touched with
      | added comes taken => exact added comes taken ih
      | removed number => exact removed number ih

namespace Touches

theorem stopped (touches : engine.Touches known next) : next.stopped = engine.stopped := by
  refine touches.keeps (fun later => later.stopped = engine.stopped) ?_ ?_ rfl
  · exact fun _ taken same => (add_stopped taken).trans same
  · exact fun number same => (remove_stopped _ number).trans same

theorem sound (touches : engine.Touches known next) (sound : engine.timetable.Sound) :
    next.timetable.Sound := by
  refine touches.keeps (fun later => later.timetable.Sound) ?_ ?_ sound
  · intro _ _ _ _ _ _ _ _ _ taken sound
    obtain ⟨_, timetable, fits, rfl⟩ := add_eq_ok_iff.mp taken
    rw [rouse_timetable]
    exact sound.add fits
  · intro _ number sound
    rw [remove_timetable]
    exact sound.remove number

theorem follows (touches : engine.Touches known next) :
    engine.timetable.Follows next.timetable := by
  refine touches.keeps (fun later => engine.timetable.Follows later.timetable) ?_ ?_ (.refl _)
  · intro _ _ _ _ _ _ _ _ _ taken follows
    obtain ⟨_, timetable, fits, rfl⟩ := add_eq_ok_iff.mp taken
    rw [rouse_timetable]
    exact follows.trans (Timetable.follows_add fits)
  · intro _ number follows
    rw [remove_timetable]
    exact follows.trans Timetable.follows_remove

/-- An entry that stands was there before, with its duty, or has come for a definition that was
known. -/
theorem duty? (touches : engine.Touches known next) (sound : engine.timetable.Sound)
    (stands : next.timetable.duty? number = some duty) :
    engine.timetable.duty? number = some duty ∨
      engine.timetable.nextId ≤ number ∧ duty.ComesFrom known := by
  induction touches with
  | refl => exact .inl stands
  | @tail middle last before touched ih =>
      have earlier : engine.Touches known middle := before
      cases touched with
      | added comes taken =>
          obtain ⟨_, timetable, fits, rfl⟩ := add_eq_ok_iff.mp taken
          rw [rouse_timetable, (earlier.sound sound).duty?_add fits] at stands
          split at stands
          · rename_i same
            cases stands
            refine .inr ⟨?_, comes⟩
            rw [same, (Timetable.add_ok fits).1]
            exact earlier.follows.issued
          · exact ih stands
      | removed gone =>
          rw [remove_timetable, Timetable.duty?_remove] at stands
          split at stands
          · cases stands
          · exact ih stands

end Touches

theorem step?_started {δ : Type} {mechanism : Mechanism σ δ} {engine next : Engine σ δ}
    {loop : Loop} {pass : Pass δ} (stepped : engine.step? mechanism now loop = some (next, pass))
    (sound : engine.timetable.Sound) {firing : Firing δ} (member : firing ∈ pass.started) :
    engine.timetable.duty? firing.id = some firing.duty := by
  cases step?_stepped stepped with
  | fired =>
      have fired := (List.takeWhile_sublist _).subset member
      obtain ⟨entry, due, rfl⟩ := List.mem_map.mp fired
      have listed := (List.mem_filter.mp due).1
      exact congrArg (Option.map Entry.duty) (sound.find?_of_mem listed)
  | _ => simp at member

end Engine

namespace Roster

variable {roster next last : Roster σ} {definitions : List Definition}

structure Deals (known : Definition → Prop) (roster next : Roster σ) : Prop where
  engine : roster.engine.Touches known next.engine
  gated : next.gated = roster.gated

theorem Deals.refl (roster : Roster σ) : roster.Deals known roster := ⟨.refl, rfl⟩

theorem Deals.trans (earlier : roster.Deals known next) (later : next.Deals known last) :
    roster.Deals known last :=
  ⟨earlier.engine.trans later.engine, later.gated.trans earlier.gated⟩

theorem deals_drop (progress : Progress σ) (id : TaskId) :
    progress.roster.Deals known (progress.drop id).roster := by
  cases found : Rows.find? id progress.roster.entries with
  | none => simpa [Progress.drop, unregister, found] using .refl _
  | some number =>
      refine ⟨?_, by simp [Progress.drop, unregister, found]⟩
      simpa [Progress.drop, unregister, found] using .single (.removed number)

theorem deals_follow (progress : Progress σ) {definition : Definition}
    (offered : known definition) :
    progress.roster.Deals known (progress.follow mechanism now definition).roster := by
  have followed := progress.follow_followed mechanism now definition
  generalize progress.follow mechanism now definition = result at followed ⊢
  cases followed with
  | dropped => exact deals_drop progress definition.id
  | registered enabled _ added _ =>
      have comes : (Duty.task definition).ComesFrom known := ⟨offered, enabled⟩
      exact ⟨.single (.added comes added), rfl⟩
  | kept => exact .refl _
  | refused => exact .refl _

theorem deals_foldl {α : Type} {step : Progress σ → α → Progress σ} {items : List α}
    (deals : ∀ item ∈ items, ∀ progress : Progress σ,
      progress.roster.Deals known (step progress item).roster)
    (progress : Progress σ) :
    progress.roster.Deals known (items.foldl step progress).roster := by
  induction items generalizing progress with
  | nil => exact .refl _
  | cons item items ih =>
      exact (deals item List.mem_cons_self progress).trans
        (ih (fun later member => deals later (List.mem_cons_of_mem _ member))
          (step progress item))

theorem deals_applyReload (roster : Roster σ) (mechanism : Mechanism σ Duty) (now : Wall)
    (ticket : Nat) (offered : ∀ definition ∈ definitions, known definition) :
    roster.Deals known (roster.applyReload mechanism now ticket definitions).roster := by
  simp only [applyReload]
  split
  · exact .refl _
  · have begun : roster.Deals known { roster with applied := ticket } := ⟨.refl, rfl⟩
    let first : Progress σ := { roster := { roster with applied := ticket } }
    have followed : first.roster.Deals known
        (definitions.foldl (Progress.follow mechanism now) first).roster :=
      deals_foldl (fun definition member progress =>
        deals_follow progress (offered definition member)) first
    exact (begun.trans followed).trans
      (deals_foldl (fun id _ progress => deals_drop progress id) _)

theorem deals_initialise (initialised : roster.initialise mechanism now = .ok next) :
    roster.Deals known next := by
  simp only [initialise, bind, Except.bind, pure, Except.pure] at initialised
  split at initialised
  · cases initialised
    exact .refl _
  · split at initialised
    · simp at initialised
    · rename_i taken
      cases initialised
      have comes : Duty.reload.ComesFrom known := trivial
      exact ⟨.single (.added comes taken), rfl⟩

end Roster

end Rota.Schedule
