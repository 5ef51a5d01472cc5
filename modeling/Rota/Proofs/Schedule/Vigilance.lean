import Rota.Proofs.Schedule.Timetable

/-!
The lone run loop of an engine. Between its reckoning and its rest entries come and go; each such
change wakes it, or leaves a permit that it finds before it rests. Main statement: a loop that
cannot go on rests on a deadline that no entry comes before.
-/

namespace Rota.Schedule

variable {σ δ : Type} {mechanism : Mechanism σ δ} {now : Wall}

namespace Timetable

/-- No entry is due before the deadline. -/
def Covered (timetable : Timetable σ δ) (deadline : Option Wall) : Prop :=
  ∀ entry ∈ timetable.entries, ∀ next, entry.next = some next →
    ∃ moment, deadline = some moment ∧ moment ≤ next

theorem covered_earliest (timetable : Timetable σ δ) : timetable.Covered timetable.earliest := by
  intro entry member next ahead
  have listed : next ∈ timetable.entries.filterMap Entry.next :=
    List.mem_filterMap.mpr ⟨entry, member, ahead⟩
  rw [earliest]
  cases first : (timetable.entries.filterMap Entry.next).min? with
  | none =>
      rw [List.min?_eq_none_iff.mp first] at listed
      cases listed
  | some moment => exact ⟨moment, rfl, (List.min?_eq_some_iff.mp first).2 next listed⟩

theorem Covered.remove {timetable : Timetable σ δ} {deadline : Option Wall}
    (covered : timetable.Covered deadline) (id : EntryId) :
    (timetable.remove id).2.Covered deadline := by
  intro entry member
  exact covered entry (List.mem_filter.mp member).1

end Timetable

namespace Engine

variable {engine next : Engine σ δ} {loop : Loop} {pass : Pass δ}

/-- The loop has missed no change, or is about to reckon again, or to end. -/
def Vigilant (engine : Engine σ δ) (loop : Loop) : Prop :=
  match loop.phase with
  | .reckoning => True
  | .reckoned deadline => engine.changePermit = true ∨ engine.timetable.Covered deadline
  | .resting deadline =>
    loop.roused = true ∨ loop.dismissed = true ∨ engine.timetable.Covered deadline

/-- No loop runs any more, or one that is vigilant does. -/
inductive Watched (engine : Engine σ δ) : Prop
  | idle : engine.loops = [] → Watched engine
  | going (sole : Loop) : engine.loops = [sole] → engine.Vigilant sole → Watched engine

theorem run_watched (idle : engine.loops = []) (id : Nat) : (engine.run id).Watched :=
  .going { id } (by simp [run, idle]) trivial

/-! Changes of the timetable, and signals, take no loop down. -/

theorem markFirst_eq_nil {α : Type} {eligible : α → Bool} {mark : α → α} {items marked : List α}
    (found : markFirst eligible mark items = some marked) : marked = [] ↔ items = [] := by
  cases items with
  | nil => simp [markFirst] at found
  | cons item items =>
      simp only [markFirst] at found
      split at found
      · cases found
        simp
      · obtain ⟨others, _, rfl⟩ := Option.map_eq_some_iff.mp found
        simp

@[simp] theorem rouse_loops_eq_nil : engine.rouse.loops = [] ↔ engine.loops = [] := by
  simp only [rouse]
  split
  · rename_i found
    exact markFirst_eq_nil found
  · rfl

@[simp] theorem dismiss_loops_eq_nil : engine.dismiss.loops = [] ↔ engine.loops = [] := by
  simp only [dismiss]
  split
  · rename_i found
    exact markFirst_eq_nil found
  · rfl

@[simp] theorem remove_loops_eq_nil (id : EntryId) :
    (engine.remove id).2.loops = [] ↔ engine.loops = [] := by
  simp only [remove]
  split
  · exact rouse_loops_eq_nil
  · rfl

theorem add_loops_eq_nil {name expression : String} {duty : δ} {id : EntryId}
    (added : engine.add mechanism now name expression duty = .ok (id, next)) :
    next.loops = [] ↔ engine.loops = [] := by
  obtain ⟨_, timetable, _, rfl⟩ := add_eq_ok_iff.mp added
  exact rouse_loops_eq_nil

/-! Changes of the timetable. -/

/-- Whatever has changed, the loop is told of it. -/
theorem rouse_watched (lone : engine.loops = [] ∨ ∃ loop, engine.loops = [loop]) :
    engine.rouse.Watched := by
  rcases lone with idle | ⟨loop, alone⟩
  · exact .idle (rouse_loops_eq_nil.mpr idle)
  · by_cases wakes : (loop.isResting && !loop.roused) = true
    · refine .going { loop with roused := true } ?_ ?_
      · simp [rouse, alone, markFirst, wakes]
      · unfold Vigilant
        cases phase : loop.phase with
        | reckoning => trivial
        | reckoned deadline => simp [Loop.isResting, phase] at wakes
        | resting deadline => exact .inl rfl
    · -- A loop that has not gone to rest finds the permit when it looks for one.
      have kept : engine.rouse = { engine with changePermit := true } := by
        simp [rouse, alone, markFirst, wakes]
      refine .going loop (by rw [kept]; exact alone) ?_
      rw [kept]
      unfold Vigilant
      cases phase : loop.phase with
      | reckoning => trivial
      | reckoned deadline => exact .inl rfl
      | resting deadline =>
          left
          simpa [Loop.isResting, phase] using wakes

theorem Watched.lone (watched : engine.Watched) :
    engine.loops = [] ∨ ∃ loop, engine.loops = [loop] := by
  cases watched with
  | idle idle => exact .inl idle
  | going loop alone => exact .inr ⟨loop, alone⟩

theorem Watched.add (watched : engine.Watched) {name expression : String} {duty : δ}
    {id : EntryId} (added : engine.add mechanism now name expression duty = .ok (id, next)) :
    next.Watched := by
  obtain ⟨_, timetable, _, rfl⟩ := add_eq_ok_iff.mp added
  exact rouse_watched watched.lone

theorem Watched.remove (watched : engine.Watched) (id : EntryId) :
    (engine.remove id).2.Watched := by
  simp only [Engine.remove]
  split
  · exact rouse_watched watched.lone
  · cases watched with
    | idle idle => exact .idle idle
    | going loop alone vigilant =>
        refine .going loop alone ?_
        unfold Vigilant at vigilant ⊢
        cases phase : loop.phase with
        | reckoning => trivial
        | reckoned deadline =>
            simp only [phase] at vigilant ⊢
            exact vigilant.imp_right (·.remove id)
        | resting deadline =>
            simp only [phase] at vigilant ⊢
            exact vigilant.imp_right (.imp_right (·.remove id))

theorem Watched.dismiss (watched : engine.Watched) : engine.dismiss.Watched := by
  cases watched with
  | idle idle => exact .idle (dismiss_loops_eq_nil.mpr idle)
  | going loop alone vigilant =>
      by_cases ends : (loop.isResting && !loop.dismissed) = true
      · refine .going { loop with dismissed := true } ?_ ?_
        · simp [Engine.dismiss, alone, markFirst, ends]
        · unfold Vigilant
          cases phase : loop.phase with
          | reckoning => trivial
          | reckoned deadline => simp [Loop.isResting, phase] at ends
          | resting deadline => exact .inr (.inl rfl)
      · have kept : engine.dismiss = { engine with shutdownPermit := true } := by
          simp [Engine.dismiss, alone, markFirst, ends]
        refine .going loop (by rw [kept]; exact alone) ?_
        rw [kept]
        exact vigilant

/-! Steps of the loop. -/

/-- What a step of a loop does. -/
inductive Stepped (engine : Engine σ δ) (mechanism : Mechanism σ δ) (now : Wall) (loop : Loop) :
    Engine σ δ → Pass δ → Prop
  | reckoned : loop.phase = .reckoning → Stepped engine mechanism now loop
      (engine.withLoop loop.id (.reckoned engine.timetable.earliest)) {}
  | halted {halting : Engine σ δ} : halting.timetable = engine.timetable →
      halting.loops = engine.loops → Stepped engine mechanism now loop (halting.halt loop) {}
  | changed : Stepped engine mechanism now loop
      ({ engine with changePermit := false }.withLoop loop.id .reckoning) {}
  | woken : Stepped engine mechanism now loop (engine.withLoop loop.id .reckoning) {}
  | fired : Stepped engine mechanism now loop (engine.fire mechanism now loop.id).1
      (engine.fire mechanism now loop.id).2
  | rested {deadline} : loop.phase = .reckoned deadline → engine.changePermit = false →
      Stepped engine mechanism now loop (engine.rest loop.id deadline) {}

theorem step?_stepped (stepped : engine.step? mechanism now loop = some (next, pass)) :
    engine.Stepped mechanism now loop next pass := by
  simp only [step?] at stepped
  split at stepped
  · rename_i reckoning
    cases stepped
    exact .reckoned reckoning
  · rename_i deadline reckoned
    split at stepped
    · cases stepped
      exact .halted rfl rfl
    · split at stepped
      · cases stepped
        exact .changed
      · rename_i unchanged
        split at stepped
        · have fires := Option.some.inj stepped
          have same : next = (engine.fire mechanism now loop.id).1 ∧
              pass = (engine.fire mechanism now loop.id).2 := by rw [fires]; exact ⟨rfl, rfl⟩
          rw [same.1, same.2]
          exact .fired
        · cases stepped
          exact .rested reckoned (Bool.eq_false_iff.mpr unchanged)
  · split at stepped
    · cases stepped
      exact .halted rfl rfl
    · split at stepped
      · cases stepped
        exact .woken
      · split at stepped
        · have fires := Option.some.inj stepped
          have same : next = (engine.fire mechanism now loop.id).1 ∧
              pass = (engine.fire mechanism now loop.id).2 := by rw [fires]; exact ⟨rfl, rfl⟩
          rw [same.1, same.2]
          exact .fired
        · simp at stepped

theorem withLoop_loops (alone : engine.loops = [loop]) (phase : LoopPhase) :
    (engine.withLoop loop.id phase).loops = [{ id := loop.id, phase }] := by
  simp [withLoop, alone]

theorem withoutLoop_loops (alone : engine.loops = [loop]) :
    (engine.withoutLoop loop.id).loops = [] := by
  simp [withoutLoop, alone]

theorem halt_loops (alone : engine.loops = [loop]) : (engine.halt loop).loops = [] := by
  have gone := withoutLoop_loops alone
  simp only [halt]
  split
  · exact rouse_loops_eq_nil.mpr gone
  · exact gone

/-- A pass takes the loop down when a due duty panics as soon as it is called. -/
theorem fire_loops (alone : engine.loops = [loop]) :
    (engine.fire mechanism now loop.id).1.loops =
      if (engine.timetable.fire mechanism now).1.any fun firing => mechanism.breaks firing.duty
      then [] else [{ id := loop.id, phase := .reckoning }] := by
  simp only [fire]
  split
  · simp [withoutLoop, alone]
  · simp [withLoop, alone]

theorem halt_stopped (engine : Engine σ δ) (loop : Loop) : (engine.halt loop).stopped = true := by
  simp only [halt]
  split
  · simp only [rouse]
    split <;> rfl
  · rfl

/-- The lone loop ends when the engine stops, or with a due duty that panics when called. -/
theorem Stepped.ends (stepped : engine.Stepped mechanism now loop next pass)
    (alone : engine.loops = [loop]) (idle : next.loops = []) :
    next.stopped = true ∨ ∃ entry ∈ engine.timetable.entries, entry.isDue now = true ∧
      mechanism.breaks entry.duty = true := by
  cases stepped with
  | reckoned => simp [withLoop_loops alone] at idle
  | halted => exact .inl (halt_stopped _ loop)
  | changed =>
      have same : { engine with changePermit := false }.loops = [loop] := alone
      simp [withLoop_loops same] at idle
  | woken => simp [withLoop_loops alone] at idle
  | fired =>
      right
      rw [fire_loops alone] at idle
      split at idle
      · rename_i broken
        obtain ⟨firing, fired, breaks⟩ := List.any_eq_true.mp broken
        obtain ⟨entry, listed, rfl⟩ := List.mem_map.mp fired
        obtain ⟨member, due⟩ := List.mem_filter.mp listed
        exact ⟨entry, member, due, breaks⟩
      · simp at idle
  | rested => simp [rest] at idle

theorem Watched.step (alone : engine.loops = [loop]) (vigilant : engine.Vigilant loop)
    (stepped : engine.Stepped mechanism now loop next pass) : next.Watched := by
  cases stepped with
  | reckoned =>
      refine .going _ (withLoop_loops alone _) ?_
      exact .inr engine.timetable.covered_earliest
  | halted _ loops => exact .idle (halt_loops (loops.trans alone))
  | changed =>
      have same : { engine with changePermit := false }.loops = [loop] := alone
      exact .going _ (withLoop_loops same _) trivial
  | woken => exact .going _ (withLoop_loops alone _) trivial
  | fired =>
      have loops : (engine.fire mechanism now loop.id).1.loops = _ := fire_loops alone
      split at loops
      · exact .idle loops
      · exact .going _ loops trivial
  | @rested deadline reckoned unchanged =>
      have covered : engine.timetable.Covered deadline := by
        unfold Vigilant at vigilant
        simpa [reckoned, unchanged] using vigilant
      refine .going { id := loop.id, phase := .resting deadline } ?_ (.inr (.inr covered))
      simp [rest, withoutLoop, alone]

/-- A loop that cannot go on rests on a deadline that no entry comes before. -/
theorem Vigilant.rests (vigilant : engine.Vigilant loop)
    (blocked : engine.step? mechanism now loop = none) :
    ∃ deadline, loop.phase = .resting deadline ∧ engine.timetable.Covered deadline := by
  unfold Vigilant at vigilant
  simp only [step?] at blocked
  cases phase : loop.phase with
  | reckoning => simp [phase] at blocked
  | reckoned deadline =>
      simp only [phase] at blocked
      split at blocked
      · simp at blocked
      · split at blocked
        · simp at blocked
        · split at blocked <;> simp at blocked
  | resting deadline =>
      simp only [phase] at blocked vigilant
      split at blocked
      · simp at blocked
      · rename_i kept
        split at blocked
        · simp at blocked
        · rename_i asleep
          refine ⟨deadline, rfl, ?_⟩
          simpa [kept, asleep] using vigilant

end Engine

end Rota.Schedule
