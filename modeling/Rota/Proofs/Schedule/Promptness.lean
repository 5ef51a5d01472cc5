import Rota.Proofs.Schedule.Vigilance

/-!
The lone run loop of an engine when an entry is due. Main statement: every step brings it nearer to
a pass over the same timetable, which is no more than five steps away, unless the loop ends with
the engine.
-/

namespace Rota.Schedule

variable {σ δ : Type} {mechanism : Mechanism σ δ} {now : Wall}

theorem Timetable.Covered.isPast {timetable : Timetable σ δ} {deadline : Option Wall}
    (covered : timetable.Covered deadline) {entry : Entry σ δ}
    (member : entry ∈ timetable.entries) (due : entry.isDue now = true) :
    isPast now deadline = true := by
  cases ahead : entry.next with
  | none => simp [Entry.isDue, ahead] at due
  | some next =>
      have past : next ≤ now := by simpa [Entry.isDue, ahead] using due
      obtain ⟨moment, rfl, first⟩ := covered entry member next ahead
      simpa [Schedule.isPast] using Int.le_trans first past

/-- The steps that are left up to a pass, with that of the pass. -/
def Loop.distance (permit : Bool) (loop : Loop) : Nat :=
  match loop.phase with
  | .reckoned _ => if permit then 3 else 1
  | .reckoning => if permit then 4 else 2
  | .resting _ => 5

theorem Loop.distance_le (permit : Bool) (loop : Loop) : loop.distance permit ≤ 5 := by
  simp only [distance]
  split
  · split <;> decide
  · split <;> decide
  · exact Nat.le_refl 5

theorem Loop.distance_pos (permit : Bool) (loop : Loop) : 0 < loop.distance permit := by
  simp only [distance]
  split
  · split <;> decide
  · split <;> decide
  · decide

namespace Engine

variable {engine next : Engine σ δ} {loop : Loop} {pass : Pass δ}

/-- What the next step comes to when an entry is due. -/
inductive Hastens (mechanism : Mechanism σ δ) (now : Wall) (engine : Engine σ δ) (loop : Loop) :
    Engine σ δ → Pass δ → Prop
  | fired : Hastens mechanism now engine loop (engine.fire mechanism now loop.id).1
      (engine.fire mechanism now loop.id).2
  | ended {halted} : halted.stopped = true → Hastens mechanism now engine loop halted {}
  | nearer {reached later} : reached.timetable = engine.timetable → reached.loops = [later] →
      reached.Vigilant later →
      later.distance reached.changePermit < loop.distance engine.changePermit →
      Hastens mechanism now engine loop reached {}

theorem Vigilant.hastens (mechanism : Mechanism σ δ) (vigilant : engine.Vigilant loop)
    (alone : engine.loops = [loop]) {entry : Entry σ δ}
    (member : entry ∈ engine.timetable.entries) (due : entry.isDue now = true) :
    ∃ next pass, engine.step? mechanism now loop = some (next, pass) ∧
      Hastens mechanism now engine loop next pass := by
  unfold Vigilant at vigilant
  cases phase : loop.phase with
  | reckoning =>
      let reached := engine.withLoop loop.id (.reckoned engine.timetable.earliest)
      have stepped : engine.step? mechanism now loop = some (reached, {}) := by
        simp [step?, phase, reached]
      have near : reached.Vigilant
          { id := loop.id, phase := .reckoned engine.timetable.earliest } :=
        .inr engine.timetable.covered_earliest
      refine ⟨reached, {}, stepped, .nearer rfl (withLoop_loops alone _) near ?_⟩
      simp only [reached, withLoop, Loop.distance, phase]
      split <;> decide
  | reckoned deadline =>
      simp only [phase] at vigilant
      by_cases ends : engine.shutdownPermit = true
      · have stepped : engine.step? mechanism now loop =
            some ({ engine with shutdownPermit := false }.halt loop, {}) := by
          simp [step?, phase, ends]
        exact ⟨_, {}, stepped, .ended (halt_stopped _ loop)⟩
      · by_cases changed : engine.changePermit = true
        · let reached := { engine with changePermit := false }.withLoop loop.id .reckoning
          have stepped : engine.step? mechanism now loop = some (reached, {}) := by
            simp [step?, phase, ends, changed, reached]
          have same : { engine with changePermit := false }.loops = [loop] := alone
          have near : reached.Vigilant { id := loop.id, phase := .reckoning } := trivial
          refine ⟨reached, {}, stepped, .nearer rfl (withLoop_loops same _) near ?_⟩
          simp [reached, withLoop, Loop.distance, phase, changed]
        · have past := (vigilant.resolve_left changed).isPast member due
          have stepped : engine.step? mechanism now loop =
              some (engine.fire mechanism now loop.id) := by
            simp [step?, phase, ends, changed, past]
          exact ⟨_, _, stepped, .fired⟩
  | resting deadline =>
      simp only [phase] at vigilant
      by_cases ends : loop.dismissed = true
      · have stepped : engine.step? mechanism now loop = some (engine.halt loop, {}) := by
          simp [step?, phase, ends]
        exact ⟨_, {}, stepped, .ended (halt_stopped _ loop)⟩
      · by_cases roused : loop.roused = true
        · let reached := engine.withLoop loop.id .reckoning
          have stepped : engine.step? mechanism now loop = some (reached, {}) := by
            simp [step?, phase, ends, roused, reached]
          have near : reached.Vigilant { id := loop.id, phase := .reckoning } := trivial
          refine ⟨reached, {}, stepped, .nearer rfl (withLoop_loops alone _) near ?_⟩
          simp only [reached, withLoop, Loop.distance, phase]
          split <;> decide
        · have past := ((vigilant.resolve_left roused).resolve_left ends).isPast member due
          have stepped : engine.step? mechanism now loop =
              some (engine.fire mechanism now loop.id) := by
            simp [step?, phase, ends, roused, past]
          exact ⟨_, _, stepped, .fired⟩

end Engine

end Rota.Schedule
