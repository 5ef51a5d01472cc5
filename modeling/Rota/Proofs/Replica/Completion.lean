import Rota.Proofs.Replica.Workday

/-!
Tasks under way. Main statement: nobody leaves a crew but the worker that goes on, and one whose
work never hangs can be brought to its end from any state, with nothing but time passing.
-/

namespace Rota

open Rota.Schedule Rota.Task

namespace Task

/-- The work comes to an end, whatever it finds on its way. -/
def Work.Ends : Work → Prop
  | finish => True
  | fail _ => True
  | panic _ => True
  | hang => False
  | record _ next => next.Ends
  | note _ next => next.Ends
  | sleep _ next => next.Ends
  | removeEntry _ next => ∀ present, (next present).Ends

/-- Whoever rests so comes to an end after it. -/
def Ending (rest : Option (Instant × Work)) : Prop :=
  ∃ wake next, rest = some (wake, next) ∧ next.Ends

variable {σ : Type} (remove : EntryId → σ → Bool × σ) (now : Instant)

theorem Work.Ends.perform {work : Work} (ends : work.Ends) (state : σ) (journal : Journal) :
    (work.perform remove now state journal).1.Keeps Ending := by
  induction work generalizing state journal with
  | finish => trivial
  | fail error => trivial
  | panic cause => trivial
  | hang => exact ends.elim
  | record event next ih => exact ih ends _ _
  | note notice next ih => exact ih ends _ _
  | sleep duration next ih =>
      cases duration with
      | zero => exact ih ends _ _
      | succ duration => exact ⟨_, next, rfl, ends⟩
  | removeEntry entry next ih => exact ih _ (ends _) _ _

theorem Ending.goes_on {wake : Instant} {next : Work} (ending : Ending (some (wake, next)))
    (state : σ) (journal : Journal) :
    (next.perform remove now state journal).1.Keeps Ending := by
  obtain ⟨_, _, same, ends⟩ := ending
  cases same
  exact ends.perform remove now state journal

namespace Crew

variable {crew next : Crew} {worker : Worker}

theorem mem_of_hires (hires : Relation.ReflTransGen Hires crew next)
    (member : worker ∈ crew.workers) : worker ∈ next.workers := by
  induction hires with
  | refl => exact member
  | tail _ hired ih =>
      cases hired with
      | done => exact ih
      | resting => exact List.mem_append_left _ ih

theorem mem_of_resume (remove : EntryId → σ → Bool × σ) (now : Instant) (state : σ)
    (journal : Journal) {other : Worker} (member : worker ∈ crew.workers)
    (distinct : worker.id ≠ other.id) :
    worker ∈ (resume remove now (crew, state, journal) other).1.workers := by
  have stays : worker ∈ crew.workers.filter (·.id != other.id) :=
    List.mem_filter.mpr ⟨member, by simpa using distinct⟩
  simp only [resume]
  split
  · exact member
  · simp only [settle]
    split
    · exact stays
    · exact List.mem_append_left _ stays
    · exact List.mem_append_left _ stays

theorem Sound.find?_of_mem (sound : crew.Sound) (member : worker ∈ crew.workers) :
    crew.workers.find? (·.id == worker.id) = some worker := by
  obtain ⟨before, after, split⟩ := List.append_of_mem member
  have distinct := sound.distinct
  rw [split, List.map_append, List.map_cons, List.nodup_append] at distinct
  rw [List.find?_eq_some_iff_append]
  refine ⟨by simp, before, after, split, ?_⟩
  intro earlier inside
  have other := distinct.2.2 earlier.id (List.mem_map_of_mem inside) worker.id List.mem_cons_self
  simpa using other

/-- The crew while a worker is away at work. -/
def without (crew : Crew) (id : Nat) : Crew :=
  { crew with workers := crew.workers.filter (·.id != id) }

theorem Sound.without (sound : crew.Sound) (id : Nat) : (crew.without id).Sound :=
  ⟨sound.distinct.sublist (List.filter_sublist.map _),
    fun worker member => sound.hired worker (List.mem_filter.mp member).1⟩

theorem without_absent (crew : Crew) {id : Nat} :
    ∀ worker ∈ (crew.without id).workers, worker.id ≠ id :=
  fun worker member => by simpa using (List.mem_filter.mp member).2

theorem hasFinished_iff {id : Nat} :
    crew.hasFinished id = true ↔ ∀ worker ∈ crew.workers, worker.id ≠ id := by
  simp [hasFinished]

end Crew

end Task

namespace Workday

variable {workday next : Workday} {doing : Doing} {worker : Worker}

theorem Wrought.stays (wrought : workday.Wrought doing next)
    (member : worker ∈ workday.replica.crew.workers) (unwoken : doing ≠ .wake worker.id) :
    worker ∈ next.replica.crew.workers := by
  cases wrought with
  | began _ deals => exact Crew.mem_of_hires deals.crew member
  | dealt _ _ _ crew => exact crew ▸ member
  | @woken woken found _ _ _ listed _ resumed =>
      have named : found.id = woken := by simpa using List.find?_some listed
      have distinct : worker.id ≠ found.id := by
        rintro same
        exact unwoken (congrArg Doing.wake (named.symm.trans same.symm))
      have stays := Crew.mem_of_resume Engine.remove workday.replica.now workday.replica.engine
        workday.replica.journal member distinct
      rw [resumed] at stays
      exact stays
  | ran _ crew => exact crew ▸ member
  | _ => exact member

/-- With nothing but time passing the worker comes to the end of the work. -/
def Completes (workday : Workday) (worker : Nat) : Prop :=
  ∃ doings final, (∀ doing ∈ doings, (∃ later, doing = .wait later) ∨ doing = .wake worker) ∧
    workday.follow? doings = some final ∧ final.replica.crew.hasFinished worker = true

theorem Completes.after {doing : Doing} {id : Nat} (completes : next.Completes id)
    (performed : workday.perform? doing = some next)
    (tends : (∃ later, doing = .wait later) ∨ doing = .wake id) : workday.Completes id := by
  obtain ⟨doings, final, tending, followed, finished⟩ := completes
  refine ⟨doing :: doings, final, ?_, ?_, finished⟩
  · exact List.forall_mem_cons.mpr ⟨tends, tending⟩
  · exact Option.bind_eq_some_iff.mpr ⟨next, performed, followed⟩

/-- A worker who is away goes on with the work. -/
def goOn (workday : Workday) (worker : Worker) (work : Work) : Workday :=
  let (rest, engine, journal) := work.perform Engine.remove workday.replica.now
    workday.replica.engine workday.replica.journal
  let (crew, journal) := workday.replica.crew.settle workday.replica.now worker.id
    worker.assignment rest journal
  { workday with replica := { workday.replica.withEngine engine with crew, journal } }

/-- The replica while a worker is away at work, at some later time. -/
def awaiting (workday : Workday) (worker : Nat) (now : Instant) : Workday :=
  { workday with
    replica := { workday.replica with now, crew := workday.replica.crew.without worker } }

theorem perform?_wake (sound : workday.replica.crew.Sound)
    (member : worker ∈ workday.replica.crew.workers) {wake : Instant} {work : Work}
    (resting : worker.rest = some (wake, work)) (due : wake ≤ workday.replica.now) :
    workday.perform? (.wake worker.id) =
      some ((workday.awaiting worker.id workday.replica.now).goOn worker work) := by
  simp only [perform?, sound.find?_of_mem member, bind, Option.bind_some, Crew.Worker.isDue,
    resting, due, decide_true, if_true, Crew.resume]
  rfl

theorem Completes.woken (sound : workday.replica.crew.Sound)
    (member : worker ∈ workday.replica.crew.workers) {wake : Instant} {work : Work}
    (resting : worker.rest = some (wake, work))
    (completes : ∀ now, ((workday.awaiting worker.id now).goOn worker work).Completes worker.id) :
    workday.Completes worker.id := by
  have later : workday.replica.now ≤ max workday.replica.now wake := Nat.le_max_left ..
  let waited : Workday := { workday with
    replica := { workday.replica with now := max workday.replica.now wake } }
  have woken : waited.perform? (.wake worker.id) =
      some ((workday.awaiting worker.id (max workday.replica.now wake)).goOn worker work) :=
    @perform?_wake waited worker sound member wake work resting (Nat.le_max_right ..)
  have waits : workday.perform? (.wait (max workday.replica.now wake)) = some waited := if_pos later
  exact ((completes _).after woken (.inr rfl)).after waits (.inl ⟨_, rfl⟩)

theorem completes_goOn {work : Work} (ends : work.Ends) {workday : Workday} {worker : Worker}
    (absent : ∀ other ∈ workday.replica.crew.workers, other.id ≠ worker.id)
    (sound : workday.replica.crew.Sound) (hired : worker.id < workday.replica.crew.hired) :
    (workday.goOn worker work).Completes worker.id := by
  have finished (workday : Workday)
      (absent : ∀ other ∈ workday.replica.crew.workers, other.id ≠ worker.id) :
      workday.Completes worker.id :=
    ⟨[], workday, by simp, rfl, Crew.hasFinished_iff.mpr absent⟩
  induction work generalizing workday worker with
  | finish => exact finished _ absent
  | fail error => exact finished _ absent
  | panic cause => exact finished _ absent
  | hang => exact ends.elim
  | record event next ih =>
      have goesOn := @ih ends { workday with replica := { workday.replica with
        journal := workday.replica.journal.record workday.replica.now event } } worker
      exact goesOn absent sound hired finished
  | note notice next ih =>
      exact @ih ends { workday with replica := workday.replica.note notice } worker absent sound
        hired finished
  | sleep duration next ih =>
      cases duration with
      | zero => exact ih ends absent sound hired finished
      | succ duration =>
          -- The worker falls asleep, and is away at work again once it is woken.
          let resting : Worker :=
            { worker with rest := some (workday.replica.now + duration + 1, next) }
          let asleep := workday.goOn worker (.sleep (duration + 1) next)
          have listed : resting ∈ asleep.replica.crew.workers :=
            List.mem_append_right _ List.mem_cons_self
          have joined : asleep.replica.crew.Sound :=
            @Crew.Sound.join _ sound resting _ absent hired (Nat.le_refl _)
          refine @Completes.woken asleep resting joined listed _ _ rfl fun now => ?_
          exact @ih ends (asleep.awaiting worker.id now) resting (Crew.without_absent _)
            (joined.without _) hired finished
  | removeEntry entry next ih =>
      exact @ih _ (ends _) (workday.withEngine (workday.replica.engine.remove entry).2) worker
        absent sound hired finished

theorem completes_of_ending (sound : workday.replica.crew.Sound) {id : Nat}
    (ending : workday.replica.crew.Keeps Ending (· = id)) : workday.Completes id := by
  by_cases finished : workday.replica.crew.hasFinished id = true
  · exact ⟨[], workday, by simp, rfl, finished⟩
  · simp only [Crew.hasFinished_iff, not_forall, not_not] at finished
    obtain ⟨worker, member, rfl⟩ := finished
    obtain ⟨wake, next, resting, ends⟩ := ending worker member rfl
    refine Completes.woken sound member resting fun now => ?_
    exact completes_goOn ends (Crew.without_absent _) (sound.without _)
      (sound.hired worker member)

end Workday

end Rota
