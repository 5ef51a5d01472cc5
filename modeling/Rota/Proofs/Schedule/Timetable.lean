import Rota.Schedule.Engine

/-!
Timetables and what an engine does to its own. Main statements: what is found under an id after
entries were added, removed or fired; an entry only ever changes its next time.
-/

namespace Rota.Schedule

variable {σ δ : Type} {mechanism : Mechanism σ δ} {now : Wall}

namespace Timetable

structure Sound (timetable : Timetable σ δ) : Prop where
  ascending : timetable.entries.Pairwise fun entry later => entry.id < later.id
  issued : ∀ entry ∈ timetable.entries, entry.id < timetable.nextId

variable {timetable next : Timetable σ δ} {id other : EntryId} {entry : Entry σ δ}

theorem empty_sound : Sound ({} : Timetable σ δ) := ⟨.nil, by simp⟩

theorem mem_of_find? (found : timetable.find? id = some entry) :
    entry ∈ timetable.entries ∧ entry.id = id := by
  constructor
  · exact List.mem_of_find?_eq_some found
  · simpa using List.find?_some found

theorem Sound.find?_of_mem (sound : timetable.Sound) (member : entry ∈ timetable.entries) :
    timetable.find? entry.id = some entry := by
  obtain ⟨before, after, split⟩ := List.append_of_mem member
  have ascending := sound.ascending
  rw [split, List.pairwise_append] at ascending
  rw [find?, List.find?_eq_some_iff_append]
  refine ⟨by simp, before, after, split, ?_⟩
  intro earlier inside
  have below := ascending.2.2 earlier inside entry List.mem_cons_self
  simp only [Bool.not_eq_true', beq_eq_false_iff_ne]
  exact Nat.ne_of_lt below

/-! Adding. -/

theorem plan_ok {expression : String} {schedule : σ} {moment : Wall}
    (planned : plan mechanism now expression = .ok (schedule, moment)) :
    mechanism.read expression = .ok schedule ∧ mechanism.next schedule now = .ok moment := by
  rw [plan] at planned
  cases read : mechanism.read expression with
  | error reason =>
      rw [read] at planned
      cases planned
  | ok found =>
      rw [read] at planned
      change (mechanism.next found now).mapError _ >>= _ = _ at planned
      cases searched : mechanism.next found now with
      | error reason =>
          rw [searched] at planned
          cases planned
      | ok first =>
          rw [searched] at planned
          cases planned
          exact ⟨rfl, searched⟩

variable {name expression : String} {duty : δ}

theorem add_ok (added : timetable.add mechanism now name expression duty = .ok (id, next)) :
    id = timetable.nextId ∧ ∃ schedule moment,
      mechanism.read expression = .ok schedule ∧ mechanism.next schedule now = .ok moment ∧
        next = { entries := timetable.entries ++ [{ id, name, schedule, next := some moment, duty }]
                 nextId := id + 1 } := by
  simp only [add, bind, Except.bind, pure, Except.pure] at added
  cases planned : plan mechanism now expression with
  | error reason => simp [planned] at added
  | ok found =>
      obtain ⟨schedule, moment⟩ := found
      obtain ⟨read, searched⟩ := plan_ok planned
      simp only [planned, Except.ok.injEq, Prod.mk.injEq] at added
      obtain ⟨rfl, rfl⟩ := added
      exact ⟨rfl, schedule, moment, read, searched, rfl⟩

theorem Sound.add (sound : timetable.Sound)
    (added : timetable.add mechanism now name expression duty = .ok (id, next)) : next.Sound := by
  obtain ⟨rfl, schedule, moment, _, _, rfl⟩ := add_ok added
  constructor
  · rw [List.pairwise_append]
    refine ⟨sound.ascending, List.pairwise_singleton _ _, ?_⟩
    intro entry member later last
    rw [List.mem_singleton.mp last]
    exact sound.issued entry member
  · intro entry member
    rcases List.mem_append.mp member with old | last
    · exact Nat.lt_succ_of_lt (sound.issued entry old)
    · rw [List.mem_singleton.mp last]
      exact Nat.lt_succ_self _

theorem Sound.find?_add (sound : timetable.Sound)
    (added : timetable.add mechanism now name expression duty = .ok (id, next)) :
    ∃ schedule moment, mechanism.read expression = .ok schedule ∧
      mechanism.next schedule now = .ok moment ∧
        next.find? id = some { id, name, schedule, next := some moment, duty } := by
  have later := sound.add added
  obtain ⟨rfl, schedule, moment, read, searched, rfl⟩ := add_ok added
  refine ⟨schedule, moment, read, searched, ?_⟩
  exact later.find?_of_mem (List.mem_append_right _ List.mem_cons_self)

theorem find?_add_of_ne (added : timetable.add mechanism now name expression duty = .ok (id, next))
    (differ : other ≠ id) : next.find? other = timetable.find? other := by
  obtain ⟨rfl, schedule, moment, _, _, rfl⟩ := add_ok added
  simp [find?, List.find?_append, differ.symm]

/-! Removing. -/

theorem Sound.remove (sound : timetable.Sound) (id : EntryId) : (timetable.remove id).2.Sound := by
  constructor
  · exact sound.ascending.sublist List.filter_sublist
  · intro entry member
    exact sound.issued entry (List.mem_filter.mp member).1

theorem find?_remove (id other : EntryId) :
    (timetable.remove id).2.find? other = if other = id then none else timetable.find? other := by
  by_cases same : other = id
  · simp [find?, remove, same]
  · rw [if_neg same]
    simp only [find?, remove, List.find?_filter]
    congr 1
    funext entry
    by_cases here : entry.id = other
    · simp [here, same]
    · simp [here]

/-! Firing. -/

theorem Sound.fire (sound : timetable.Sound) (mechanism : Mechanism σ δ) (now : Wall) :
    (timetable.fire mechanism now).2.Sound := by
  have sameId (entry : Entry σ δ) :
      (if entry.isDue now then entry.rescheduled mechanism now else entry).id = entry.id := by
    split <;> rfl
  constructor
  · simp only [Timetable.fire, List.pairwise_map, sameId]
    exact sound.ascending
  · intro entry member
    obtain ⟨before, old, rfl⟩ := List.mem_map.mp member
    rw [sameId]
    exact sound.issued before old

theorem find?_fire (mechanism : Mechanism σ δ) (now : Wall) (id : EntryId) :
    (timetable.fire mechanism now).2.find? id = (timetable.find? id).map fun entry =>
      if entry.isDue now then entry.rescheduled mechanism now else entry := by
  simp only [find?, fire, List.find?_map]
  congr 2
  funext entry
  simp only [Function.comp]
  split <;> rfl

/-- What an id stands for goes on standing there, but for its next time. -/
def Retains (timetable next : Timetable σ δ) (id : EntryId) : Prop :=
  ∀ entry, timetable.find? id = some entry → ∃ moment,
    next.find? id = some { entry with next := moment }

theorem Retains.of_eq (same : next.find? id = timetable.find? id) : timetable.Retains next id := by
  intro entry found
  exact ⟨entry.next, same.trans found⟩

theorem Sound.retains_add (sound : timetable.Sound)
    (added : timetable.add mechanism now name expression duty = .ok (id, next)) (other : EntryId) :
    timetable.Retains next other := by
  intro entry found
  have member := mem_of_find? found
  have below := sound.issued entry member.1
  obtain ⟨fresh, _⟩ := add_ok added
  have differ : other ≠ id := by
    rw [← member.2, fresh]
    exact Nat.ne_of_lt below
  exact Retains.of_eq (find?_add_of_ne added differ) entry found

theorem retains_fire (mechanism : Mechanism σ δ) (now : Wall) (id : EntryId) :
    timetable.Retains (timetable.fire mechanism now).2 id := by
  intro entry found
  rw [find?_fire, found]
  by_cases due : entry.isDue now
  · exact ⟨(mechanism.next entry.schedule now).toOption, by simp [due, Entry.rescheduled]⟩
  · exact ⟨entry.next, by simp [due]⟩

end Timetable

namespace Engine

variable {engine next : Engine σ δ} {loop : Loop} {pass : Pass δ}

theorem rouse_timetable (engine : Engine σ δ) : engine.rouse.timetable = engine.timetable := by
  simp only [rouse]
  split <;> rfl

theorem dismiss_timetable (engine : Engine σ δ) : engine.dismiss.timetable = engine.timetable := by
  simp only [dismiss]
  split <;> rfl

theorem remove_timetable (id : EntryId) (engine : Engine σ δ) :
    (engine.remove id).2.timetable = (engine.timetable.remove id).2 := by
  simp only [remove]
  split
  · exact rouse_timetable _
  · rfl

theorem halt_timetable (engine : Engine σ δ) (loop : Loop) :
    (engine.halt loop).timetable = engine.timetable := by
  simp only [halt]
  split
  · exact rouse_timetable _
  · rfl

theorem fire_timetable (engine : Engine σ δ) (mechanism : Mechanism σ δ) (now : Wall) (id : Nat) :
    (engine.fire mechanism now id).1.timetable = (engine.timetable.fire mechanism now).2 := by
  simp only [fire]
  split <;> rfl

/-- An engine takes what its timetable takes, as long as it has not stopped. -/
theorem add_eq_ok_iff {name expression : String} {duty : δ} {id : EntryId} :
    engine.add mechanism now name expression duty = .ok (id, next) ↔
      engine.stopped = false ∧ ∃ timetable,
        engine.timetable.add mechanism now name expression duty = .ok (id, timetable) ∧
          next = { engine with timetable }.rouse := by
  simp only [add, bind, Except.bind, pure, Except.pure]
  cases engine.stopped with
  | true => simp [throw, throwThe, MonadExceptOf.throw]
  | false =>
      cases engine.timetable.add mechanism now name expression duty with
      | error reason => simp
      | ok added =>
          obtain ⟨first, timetable⟩ := added
          constructor
          · intro same
            simp only [Bool.false_eq_true, if_false, Except.ok.injEq, Prod.mk.injEq] at same
            obtain ⟨rfl, rfl⟩ := same
            exact ⟨rfl, timetable, rfl, rfl⟩
          · rintro ⟨_, _, same, rfl⟩
            simp only [Except.ok.injEq, Prod.mk.injEq] at same
            obtain ⟨rfl, rfl⟩ := same
            rfl

/-- A step of a loop either fires the timetable or leaves it alone. -/
theorem step?_timetable (stepped : engine.step? mechanism now loop = some (next, pass)) :
    next.timetable = engine.timetable ∨
      next.timetable = (engine.timetable.fire mechanism now).2 := by
  have fired (same : engine.fire mechanism now loop.id = (next, pass)) :
      next.timetable = (engine.timetable.fire mechanism now).2 := by
    rw [← fire_timetable engine mechanism now loop.id, same]
  simp only [step?] at stepped
  split at stepped
  · simp only [Option.some.injEq, Prod.mk.injEq] at stepped
    exact .inl (stepped.1 ▸ rfl)
  · split at stepped
    · simp only [Option.some.injEq, Prod.mk.injEq] at stepped
      exact .inl (stepped.1 ▸ halt_timetable _ loop)
    · split at stepped
      · simp only [Option.some.injEq, Prod.mk.injEq] at stepped
        exact .inl (stepped.1 ▸ rfl)
      · split at stepped
        · exact .inr (fired (Option.some.inj stepped))
        · simp only [Option.some.injEq, Prod.mk.injEq] at stepped
          exact .inl (stepped.1 ▸ rfl)
  · split at stepped
    · simp only [Option.some.injEq, Prod.mk.injEq] at stepped
      exact .inl (stepped.1 ▸ halt_timetable engine loop)
    · split at stepped
      · simp only [Option.some.injEq, Prod.mk.injEq] at stepped
        exact .inl (stepped.1 ▸ rfl)
      · split at stepped
        · exact .inr (fired (Option.some.inj stepped))
        · simp at stepped

end Engine

end Rota.Schedule
