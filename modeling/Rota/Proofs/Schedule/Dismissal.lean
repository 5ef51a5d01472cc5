import Rota.Proofs.Schedule.Dealings

/-!
Engines whose only loop has been told to end. Main statement: whatever comes and goes meanwhile,
the loop can always take its next step, takes two at most, starts nothing, and leaves the engine
stopped.
-/

namespace Rota.Schedule

/-- The steps that a loop takes until it finds a shutdown, with the one in which it ends. -/
def Loop.remaining (loop : Loop) : Nat :=
  match loop.phase with
  | .reckoning => 2
  | _ => 1

namespace Engine

variable {σ δ : Type} {mechanism : Mechanism σ δ} {now : Wall} {engine next : Engine σ δ}
  {loop : Loop} {pass : Pass δ}

def remaining (engine : Engine σ δ) : Nat :=
  (engine.loops.map Loop.remaining).foldr (· + ·) 0

theorem remaining_sole (alone : engine.loops = [loop]) : engine.remaining = loop.remaining := by
  simp [remaining, alone]

/-- One loop runs, or the engine has stopped with its last. -/
inductive Lone (engine : Engine σ δ) : Prop
  | ended : engine.loops = [] → engine.stopped = true → Lone engine
  | going (sole : Loop) : engine.loops = [sole] → Lone engine

/-- The shutdown is the first thing that the loop finds when it looks for a signal. -/
inductive Told (engine : Engine σ δ) : Prop
  | ended : engine.loops = [] → engine.stopped = true → Told engine
  | going (sole : Loop) : engine.loops = [sole] →
      (if sole.isResting then sole.dismissed else engine.shutdownPermit) = true → Told engine

theorem Told.lone (told : engine.Told) : engine.Lone := by
  cases told with
  | ended idle stopped => exact .ended idle stopped
  | going sole alone => exact .going sole alone

theorem Lone.remaining_le (lone : engine.Lone) : engine.remaining ≤ 2 := by
  cases lone with
  | ended idle => simp [remaining, idle]
  | going loop alone =>
      cases phase : loop.phase <;> simp [remaining, alone, Loop.remaining, phase]

/-! Signals. -/

theorem rouse_sole (alone : engine.loops = [loop]) : ∃ roused changePermit, engine.rouse =
    { engine with loops := [{ loop with roused }], changePermit } := by
  by_cases wakes : (loop.isResting && !loop.roused) = true
  · exact ⟨true, engine.changePermit, by simp [rouse, alone, markFirst, wakes]⟩
  · refine ⟨loop.roused, true, ?_⟩
    simp only [rouse, alone, markFirst, wakes, Bool.false_eq_true, if_false, Option.map_none]

theorem Told.rouse (told : engine.Told) :
    engine.rouse.Told ∧ engine.rouse.remaining = engine.remaining := by
  cases told with
  | ended idle stopped =>
      have left : engine.rouse.loops = [] := rouse_loops_eq_nil.mpr idle
      refine ⟨.ended left ?_, by rw [remaining, remaining, left, idle]⟩
      exact (rouse_stopped engine).trans stopped
  | going sole alone informed =>
      obtain ⟨roused, changePermit, same⟩ := rouse_sole alone
      rw [same]
      exact ⟨.going _ rfl informed, (remaining_sole alone).symm⟩

theorem Lone.rouse (lone : engine.Lone) : engine.rouse.Lone := by
  cases lone with
  | ended idle stopped =>
      exact .ended (rouse_loops_eq_nil.mpr idle) ((rouse_stopped engine).trans stopped)
  | going sole alone =>
      obtain ⟨roused, changePermit, same⟩ := rouse_sole alone
      exact .going { sole with roused } (by rw [same])

theorem Lone.dismiss (lone : engine.Lone) :
    engine.dismiss.Told ∧ engine.dismiss.remaining = engine.remaining := by
  cases lone with
  | ended idle stopped =>
      have left : engine.dismiss.loops = [] := dismiss_loops_eq_nil.mpr idle
      refine ⟨.ended left ?_, by rw [remaining, remaining, left, idle]⟩
      simp only [Engine.dismiss, idle, markFirst]
      exact stopped
  | going loop alone =>
      by_cases reached : (loop.isResting && !loop.dismissed) = true
      · have left : engine.dismiss.loops = [{ loop with dismissed := true }] := by
          simp [Engine.dismiss, alone, markFirst, reached]
        have resting : ({ loop with dismissed := true } : Loop).isResting = true :=
          (Bool.and_eq_true_iff.mp reached).1
        refine ⟨.going _ left (by rw [if_pos resting]), ?_⟩
        rw [remaining_sole left, remaining_sole alone]
        rfl
      · have kept : engine.dismiss = { engine with shutdownPermit := true } := by
          simp [Engine.dismiss, alone, markFirst, reached]
        rw [kept]
        refine ⟨.going loop alone ?_, rfl⟩
        split
        · rename_i resting
          simpa [resting] using reached
        · rfl

/-- Adding and removing change the timetable, and let the loop know at most. -/
theorem Touches.keeps_roused {known : Definition → Prop} {engine next : Engine σ Duty}
    (touches : engine.Touches known next) (holds : Engine σ Duty → Prop)
    (retimed : ∀ (later : Engine σ Duty) (timetable : Timetable σ Duty), holds later →
      holds { later with timetable })
    (roused : ∀ later : Engine σ Duty, holds later → holds later.rouse) (held : holds engine) :
    holds next := by
  refine touches.keeps holds ?_ ?_ held
  · rintro _ _ _ _ _ _ before after _ taken held
    obtain ⟨_, timetable, _, rfl⟩ := add_eq_ok_iff.mp taken
    exact roused _ (retimed before timetable held)
  · rintro before number held
    have kept := retimed before (before.timetable.remove number).2 held
    simp only [Engine.remove]
    split
    · exact roused _ kept
    · exact kept

theorem Touches.idle {known : Definition → Prop} {engine next : Engine σ Duty}
    (touches : engine.Touches known next) (idle : engine.loops = []) : next.loops = [] :=
  touches.keeps_roused (fun later => later.loops = []) (fun _ _ idle => idle)
    (fun _ idle => rouse_loops_eq_nil.mpr idle) idle

theorem Lone.retimed (lone : engine.Lone) (timetable : Timetable σ δ) :
    ({ engine with timetable } : Engine σ δ).Lone := by
  cases lone with
  | ended idle stopped => exact .ended idle stopped
  | going sole alone => exact .going sole alone

theorem Lone.touches {known : Definition → Prop} {engine next : Engine σ Duty}
    (lone : engine.Lone) (touches : engine.Touches known next) : next.Lone :=
  touches.keeps_roused Lone (fun _ timetable lone => lone.retimed timetable)
    (fun _ lone => lone.rouse) lone

theorem Told.retimed (told : engine.Told) (timetable : Timetable σ δ) :
    ({ engine with timetable } : Engine σ δ).Told := by
  cases told with
  | ended idle stopped => exact .ended idle stopped
  | going sole alone informed => exact .going sole alone informed

theorem Told.touches {known : Definition → Prop} {engine next : Engine σ Duty}
    (told : engine.Told) (touches : engine.Touches known next) :
    next.Told ∧ next.remaining = engine.remaining := by
  refine touches.keeps_roused (fun later => later.Told ∧ later.remaining = engine.remaining)
    ?_ ?_ ⟨told, rfl⟩
  · rintro later timetable ⟨told, same⟩
    exact ⟨told.retimed timetable, same⟩
  · rintro later ⟨told, same⟩
    obtain ⟨roused, left⟩ := told.rouse
    exact ⟨roused, left.trans same⟩

/-! Steps. -/

theorem sole_eq {sole : Loop} (alone : engine.loops = [sole]) {place : Nat}
    (found : engine.loops[place]? = some loop) : sole = loop := by
  simpa [alone, eq_comm] using List.mem_of_getElem? found

/-- The loop ends with the engine, unless a duty takes it down. -/
theorem Lone.step (lone : engine.Lone) {place : Nat} (found : engine.loops[place]? = some loop)
    (stepped : engine.step? mechanism now loop = some (next, pass))
    (unbroken : ∀ entry ∈ engine.timetable.entries, mechanism.breaks entry.duty = false) :
    next.Lone := by
  cases lone with
  | ended idle => simp [idle] at found
  | going sole alone =>
      obtain rfl := sole_eq alone found
      cases step?_stepped stepped with
      | reckoned => exact .going _ (withLoop_loops alone _)
      | @halted halting _ loops =>
          exact .ended (halt_loops (loops.trans alone)) (halt_stopped halting sole)
      | changed =>
          have same : { engine with changePermit := false }.loops = [sole] := alone
          exact .going _ (withLoop_loops same _)
      | woken => exact .going _ (withLoop_loops alone _)
      | fired =>
          -- A pass takes its loop down only with a duty that panics as soon as it is called.
          refine .going _ ((fire_loops alone).trans (if_neg ?_))
          rw [List.any_eq_true]
          rintro ⟨firing, fired, breaks⟩
          obtain ⟨entry, due, rfl⟩ := List.mem_map.mp fired
          have whole := unbroken entry (List.mem_filter.mp due).1
          exact absurd (breaks.symm.trans whole) (by simp)
      | @rested deadline =>
          exact .going { id := sole.id, phase := .resting deadline }
            (by simp [rest, withoutLoop_loops alone])

/-- A loop that was told goes on until it ends, and starts nothing on the way. -/
theorem Told.step (told : engine.Told) {place : Nat} (found : engine.loops[place]? = some loop)
    (stepped : engine.step? mechanism now loop = some (next, pass)) :
    next.Told ∧ next.remaining + 1 = engine.remaining ∧ pass.started = [] := by
  cases told with
  | ended idle => simp [idle] at found
  | going sole alone informed =>
      obtain rfl := sole_eq alone found
      have halts (halting : Engine σ δ) (loops : halting.loops = engine.loops)
          (last : sole.remaining = 1) : (halting.halt sole).Told ∧
            (halting.halt sole).remaining + 1 = engine.remaining := by
        have left : (halting.halt sole).loops = [] := halt_loops (loops.trans alone)
        refine ⟨.ended left (halt_stopped halting sole), ?_⟩
        rw [remaining_sole alone, last, remaining, left]
        rfl
      simp only [step?] at stepped
      cases phase : sole.phase with
      | reckoning =>
          simp only [phase, Option.some.injEq, Prod.mk.injEq] at stepped
          obtain ⟨rfl, rfl⟩ := stepped
          have left := withLoop_loops alone (.reckoned engine.timetable.earliest)
          refine ⟨.going _ left ?_, ?_, rfl⟩
          · simpa [Loop.isResting, phase, withLoop] using informed
          · rw [remaining_sole left, remaining_sole alone]
            simp [Loop.remaining, phase]
      | reckoned deadline =>
          have permit : engine.shutdownPermit = true := by
            simpa [Loop.isResting, phase] using informed
          simp only [phase, permit, if_true, Option.some.injEq, Prod.mk.injEq] at stepped
          obtain ⟨rfl, rfl⟩ := stepped
          obtain ⟨ended, less⟩ := halts { engine with shutdownPermit := false } rfl
            (by simp [Loop.remaining, phase])
          exact ⟨ended, less, rfl⟩
      | resting deadline =>
          have dismissed : sole.dismissed = true := by
            simpa [Loop.isResting, phase] using informed
          simp only [phase, dismissed, if_true, Option.some.injEq, Prod.mk.injEq] at stepped
          obtain ⟨rfl, rfl⟩ := stepped
          obtain ⟨ended, less⟩ := halts engine rfl (by simp [Loop.remaining, phase])
          exact ⟨ended, less, rfl⟩

theorem Told.goes_on (told : engine.Told) (running : engine.loops ≠ [])
    (mechanism : Mechanism σ δ) (now : Wall) : ∃ loop next pass,
      engine.loops[0]? = some loop ∧ engine.step? mechanism now loop = some (next, pass) := by
  cases told with
  | ended idle => exact absurd idle running
  | going sole alone informed =>
      have goes : (engine.step? mechanism now sole).isSome = true := by
        cases phase : sole.phase <;>
          simp_all only [Loop.isResting, step?, if_true, Bool.false_eq_true, if_false,
            Option.isSome_some]
      obtain ⟨⟨next, pass⟩, stepped⟩ := Option.isSome_iff_exists.mp goes
      exact ⟨sole, next, pass, by simp [alone], stepped⟩

end Engine

end Rota.Schedule
