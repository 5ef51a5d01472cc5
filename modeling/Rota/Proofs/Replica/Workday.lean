import Rota.Proofs.Schedule.Dealings
import Rota.Proofs.Schedule.Store
import Rota.Replica

/-!
Replicas at work, step by step. The engine starts duties that begin later, each in its own time;
reads of definitions are answered before they are applied; work under way goes on when its time
has come. Main statement: what each doing makes of the engine, and what it leaves alone.
-/

namespace Rota

open Rota.Schedule Rota.Task

/-! Work. -/

namespace Task

variable {σ : Type} {remove : EntryId → σ → Bool × σ} {holds : σ → Prop}

theorem Work.perform_keeps (removed : ∀ id state, holds state → holds (remove id state).2)
    (work : Work) (now : Instant) {state : σ} (journal : Journal) (initial : holds state) :
    holds (work.perform remove now state journal).2.1 := by
  induction work generalizing state journal with
  | finish => exact initial
  | fail error => exact initial
  | panic cause => exact initial
  | hang => exact initial
  | record event next ih => exact ih _ initial
  | note notice next ih => exact ih _ initial
  | sleep duration next ih =>
      cases duration with
      | zero => exact ih _ initial
      | succ duration => exact initial
  | removeEntry entry next ih => exact ih _ _ (removed entry state initial)

namespace Crew

/-- One more is hired, who may have done the work already. -/
inductive Hires (crew : Crew) : Crew → Prop
  | done : Hires crew { crew with hired := crew.hired + 1 }
  | resting (assignment : Assignment) (rest : Option (Instant × Work)) :
      Hires crew { hired := crew.hired + 1
                   workers := crew.workers ++ [{ id := crew.hired, assignment, rest }] }

theorem start_hires (crew : Crew) (remove : EntryId → σ → Bool × σ) (now : Instant)
    (assignment : Assignment) (state : σ) (journal : Journal) :
    crew.Hires (crew.start remove now assignment state journal).2.1 := by
  simp only [start]
  cases (assignment.work.perform remove now state journal).1 with
  | ended outcome => exact .done
  | asleep wake next => exact .resting assignment _
  | hung => exact .resting assignment none

theorem resume_keeps (removed : ∀ id state, holds state → holds (remove id state).2)
    (crew : Crew) (now : Instant) {state : σ} (journal : Journal) (worker : Worker)
    (initial : holds state) :
    holds (resume remove now (crew, state, journal) worker).2.1 := by
  simp only [resume]
  split
  · exact initial
  · exact Work.perform_keeps removed _ now journal initial

theorem settle_hired (crew : Crew) (now : Instant) (id : Nat) (assignment : Assignment)
    (rest : Rest) (journal : Journal) :
    (crew.settle now id assignment rest journal).1.hired = crew.hired := by
  cases rest <;> rfl

theorem resume_hired (remove : EntryId → σ → Bool × σ) (now : Instant) (crew : Crew) (state : σ)
    (journal : Journal) (worker : Worker) :
    (resume remove now (crew, state, journal) worker).1.hired = crew.hired := by
  simp only [resume]
  split
  · rfl
  · exact settle_hired ..

structure Sound (crew : Crew) : Prop where
  distinct : (crew.workers.map Worker.id).Nodup
  hired : ∀ worker ∈ crew.workers, worker.id < crew.hired

variable {crew next : Crew}

theorem start_sound : Crew.Sound {} := ⟨.nil, by simp⟩

theorem Sound.join (sound : crew.Sound) {worker : Worker} {hired : Nat}
    (absent : ∀ other ∈ crew.workers, other.id ≠ worker.id) (issued : worker.id < hired)
    (later : crew.hired ≤ hired) :
    Crew.Sound { hired, workers := crew.workers ++ [worker] } where
  distinct := by
    rw [List.map_append, List.map_singleton, List.nodup_append]
    refine ⟨sound.distinct, List.nodup_singleton _, ?_⟩
    intro id listed last added same
    obtain ⟨other, member, rfl⟩ := List.mem_map.mp listed
    exact absent other member (same.trans (List.mem_singleton.mp added))
  hired other member := by
    rcases List.mem_append.mp member with old | new
    · exact Nat.lt_of_lt_of_le (sound.hired other old) later
    · exact List.mem_singleton.mp new ▸ issued

theorem Sound.hires (sound : crew.Sound) (hires : crew.Hires next) : next.Sound := by
  have more : crew.hired ≤ crew.hired + 1 := Nat.le_succ _
  cases hires with
  | done =>
      refine ⟨sound.distinct, fun worker member => ?_⟩
      exact Nat.lt_of_lt_of_le (sound.hired worker member) more
  | resting =>
      refine sound.join (fun other member same => ?_) (Nat.lt_succ_self _) more
      exact absurd same (Nat.ne_of_lt (sound.hired other member))

theorem Sound.allHires (sound : crew.Sound) (hires : Relation.ReflTransGen Hires crew next) :
    next.Sound := by
  induction hires with
  | refl => exact sound
  | tail _ hired ih => exact ih.hires hired

theorem Sound.resume (sound : crew.Sound) (remove : EntryId → σ → Bool × σ) (now : Instant)
    (state : σ) (journal : Journal) {worker : Worker} (member : worker ∈ crew.workers) :
    (resume remove now (crew, state, journal) worker).1.Sound := by
  simp only [Crew.resume]
  split
  · exact sound
  · have kept : Crew.Sound { crew with workers := crew.workers.filter (·.id != worker.id) } := by
      refine ⟨sound.distinct.sublist (List.filter_sublist.map _), ?_⟩
      exact fun other present => sound.hired other (List.mem_filter.mp present).1
    have absent : ∀ other ∈ crew.workers.filter (·.id != worker.id), other.id ≠ worker.id :=
      fun other present => by simpa using (List.mem_filter.mp present).2
    have issued := sound.hired worker member
    simp only [settle]
    split
    · exact kept
    · exact kept.join absent issued (Nat.le_refl _)
    · exact kept.join absent issued (Nat.le_refl _)

/-- Certain workers rest in a certain way, if they are still there. -/
def Keeps (crew : Crew) (kept : Option (Instant × Work) → Prop) (among : Nat → Prop) : Prop :=
  ∀ worker ∈ crew.workers, among worker.id → kept worker.rest

end Crew

/-- Whoever does not end their work rests in a certain way. -/
def Rest.Keeps (kept : Option (Instant × Work) → Prop) : Rest → Prop
  | ended _ => True
  | asleep wake next => kept (some (wake, next))
  | hung => kept none

namespace Crew

variable {crew next : Crew} {kept : Option (Instant × Work) → Prop} {among : Nat → Prop}

theorem Keeps.join (keeps : crew.Keeps kept among) {worker : Worker}
    (joins : among worker.id → kept worker.rest) (hired : Nat) :
    Keeps { hired, workers := crew.workers ++ [worker] } kept among := by
  intro other member
  rcases List.mem_append.mp member with old | new
  · exact keeps other old
  · obtain rfl := List.mem_singleton.mp new
    exact joins

theorem Keeps.settle (keeps : crew.Keeps kept among) (now : Instant) {id : Nat}
    (assignment : Assignment) {rest : Rest} (journal : Journal)
    (rests : among id → rest.Keeps kept) :
    (crew.settle now id assignment rest journal).1.Keeps kept among := by
  cases rest with
  | ended outcome => exact keeps
  | asleep wake next => exact keeps.join rests _
  | hung => exact keeps.join rests _

theorem Keeps.resume (keeps : crew.Keeps kept among) (remove : EntryId → σ → Bool × σ)
    (now : Instant) (state : σ) (journal : Journal) {worker : Worker}
    (member : worker ∈ crew.workers)
    (goesOn : ∀ wake next, kept (some (wake, next)) →
      (next.perform remove now state journal).1.Keeps kept) :
    (resume remove now (crew, state, journal) worker).1.Keeps kept among := by
  simp only [Crew.resume]
  split
  · exact keeps
  · rename_i wake next resting
    have fewer : Keeps
        { crew with workers := crew.workers.filter (·.id != worker.id) } kept among :=
      fun other present => keeps other (List.mem_filter.mp present).1
    exact fewer.settle now _ _ fun chosen =>
      goesOn wake next (resting ▸ keeps worker member chosen)

theorem Keeps.hires {id : Nat} (keeps : crew.Keeps kept (· = id)) (old : id < crew.hired)
    (hires : Relation.ReflTransGen Hires crew next) :
    next.Keeps kept (· = id) ∧ id < next.hired := by
  induction hires with
  | refl => exact ⟨keeps, old⟩
  | tail _ hired ih =>
      obtain ⟨keeps, old⟩ := ih
      have later := Nat.lt_succ_of_lt old
      cases hired with
      | done => exact ⟨keeps, later⟩
      | resting => exact ⟨keeps.join (fun same => absurd same (Nat.ne_of_gt old)) _, later⟩

end Crew

end Task

/-! Replicas. -/

namespace Replica

/-- A definition that is stored, or that a reload has read already. -/
def Knows (replica : Replica) (definition : Definition) : Prop :=
  definition ∈ Rows.values replica.store.rows ∨
    ∃ name ticket definitions, (name, ticket, .ok definitions) ∈ replica.held ∧
      definition ∈ definitions

/-- What comes of a duty, or of anything else that is asked of a replica at one instant. -/
structure Deals (known : Definition → Prop) (replica next : Replica) : Prop where
  origin : next.origin = replica.origin
  offset : next.offset = replica.offset
  now : next.now = replica.now
  registry : next.registry = replica.registry
  cluster : next.cluster = replica.cluster
  rows : next.store.rows = replica.store.rows
  roster : replica.roster.Deals known next.roster
  crew : Relation.ReflTransGen Crew.Hires replica.crew next.crew
  held : ∀ name ticket definitions, (name, ticket, .ok definitions) ∈ next.held →
    (name, ticket, .ok definitions) ∈ replica.held ∨ definitions = Rows.values replica.store.rows

variable {known : Definition → Prop} {replica next last : Replica}

namespace Deals

theorem refl (replica : Replica) : replica.Deals known replica where
  origin := rfl
  offset := rfl
  now := rfl
  registry := rfl
  cluster := rfl
  rows := rfl
  roster := .refl _
  crew := .refl
  held _ _ _ present := .inl present

theorem trans (earlier : replica.Deals known next) (later : next.Deals known last) :
    replica.Deals known last where
  origin := later.origin.trans earlier.origin
  offset := later.offset.trans earlier.offset
  now := later.now.trans earlier.now
  registry := later.registry.trans earlier.registry
  cluster := later.cluster.trans earlier.cluster
  rows := later.rows.trans earlier.rows
  roster := earlier.roster.trans later.roster
  crew := earlier.crew.trans later.crew
  held name ticket definitions present := by
    rcases later.held name ticket definitions present with before | read
    · exact earlier.held name ticket definitions before
    · exact .inr (read.trans (congrArg Rows.values earlier.rows))

end Deals

theorem deals_note (known : Definition → Prop) (replica : Replica) (notice : Notice) :
    replica.Deals known (replica.note notice) :=
  have same : replica.Deals known replica := .refl replica
  { same with }

theorem deals_assign (known : Definition → Prop) (replica : Replica) (assignment : Assignment) :
    replica.Deals known (replica.assign assignment).2 := by
  have same : replica.Deals known replica := .refl replica
  refine { same with roster := ⟨?_, rfl⟩, crew := ?_ }
  · have removes (number : EntryId) (engine : Engine Cron.Pattern Duty)
        (touches : replica.engine.Touches known engine) :
        replica.engine.Touches known (engine.remove number).2 := touches.tail (.removed number)
    exact Work.perform_keeps removes assignment.work _ _ .refl
  · exact .single (replica.crew.start_hires Engine.remove _ assignment _ _)

theorem deals_dispatch (known : Definition → Prop) (replica : Replica) (task : String)
    (values : List Json) : replica.Deals known (replica.dispatch task values).2 := by
  simp only [dispatch]
  split
  · exact deals_note known replica _
  · exact deals_assign known replica _

theorem deals_readDefinitions (known : Definition → Prop) (replica : Replica) :
    replica.Deals known replica.readDefinitions.2 :=
  have same : replica.Deals known replica := .refl replica
  { same with rows := Store.findAll_rows replica.store, roster := ⟨.refl, rfl⟩ }

theorem deals_applyDefinitions (replica : Replica) (ticket : Nat)
    {read : Except Error (List Definition)}
    (offered : ∀ definitions, read = .ok definitions → ∀ definition ∈ definitions,
      known definition) :
    replica.Deals known (replica.applyDefinitions ticket read).2 := by
  have same : replica.Deals known replica := .refl replica
  cases read with
  | error error => exact same
  | ok definitions =>
      exact { same with
        roster := replica.roster.deals_applyReload _ _ ticket (offered definitions rfl) }

theorem deals_reloadLogged (replica : Replica) (notice : String → Notice)
    (stored : ∀ definition ∈ Rows.values replica.store.rows, known definition) :
    replica.Deals known (replica.reloadLogged notice) := by
  have reloaded : replica.Deals known replica.reload.2 := by
    refine (deals_readDefinitions known replica).trans (deals_applyDefinitions _ _ ?_)
    intro definitions read definition member
    have same : definitions = Rows.values replica.store.rows := Store.findAll_ok read
    exact stored definition (same ▸ member)
  simp only [reloadLogged]
  split
  · rename_i next reload
    rw [reload] at reloaded
    exact reloaded
  · rename_i error next reload
    rw [reload] at reloaded
    exact reloaded.trans (deals_note known next _)

theorem deals_perform (replica : Replica) (firing : Firing Duty)
    (stored : ∀ definition ∈ Rows.values replica.store.rows, known definition) :
    replica.Deals known (replica.perform firing) := by
  simp only [perform]
  split
  · exact deals_reloadLogged replica _ stored
  · split
    · exact .refl replica
    · exact deals_note known replica _
    · exact deals_dispatch known replica _ _
  · exact deals_assign known replica _
  · exact .refl replica

theorem deals_initialise (known : Definition → Prop) (initialised : replica.initialise = .ok next) :
    replica.Deals known next := by
  simp only [initialise, bind, Except.bind] at initialised
  split at initialised
  · cases initialised
  · rename_i roster taken
    cases initialised
    have same : replica.Deals known replica := .refl replica
    exact { same with roster := Roster.deals_initialise taken }

theorem deals_holdReload (known : Definition → Prop) (replica : Replica) (name : String) :
    replica.Deals known (replica.holdReload name) := by
  refine { deals_readDefinitions known replica with held := ?_ }
  intro other ticket definitions present
  rcases List.mem_cons.mp present with same | old
  · simp only [Prod.mk.injEq] at same
    exact .inr (Store.findAll_ok same.2.2.symm)
  · exact .inl (List.mem_filter.mp old).1

theorem deals_releaseReload (replica : Replica) (name : String)
    (read : ∀ name ticket definitions, (name, ticket, .ok definitions) ∈ replica.held →
      ∀ definition ∈ definitions, known definition) :
    replica.Deals known (replica.releaseReload name).2 := by
  simp only [releaseReload]
  split
  · exact .refl replica
  · rename_i other ticket answer found
    have same : replica.Deals known replica := .refl replica
    have taken : replica.Deals known
        { replica with held := replica.held.filter (·.1 != name) } :=
      { same with held := fun _ _ _ present => .inl (List.mem_filter.mp present).1 }
    refine taken.trans (deals_applyDefinitions _ ticket ?_)
    rintro definitions rfl
    exact read other ticket definitions (List.mem_of_find?_eq_some found)

/-! Only tasks and other work are given to anybody. -/

theorem applyDefinitions_crew (replica : Replica) (ticket : Nat)
    (read : Except Error (List Definition)) :
    (replica.applyDefinitions ticket read).2.crew = replica.crew := by
  cases read <;> rfl

theorem reloadLogged_crew (replica : Replica) (notice : String → Notice) :
    (replica.reloadLogged notice).crew = replica.crew := by
  have reloaded : replica.reload.2.crew = replica.crew :=
    (applyDefinitions_crew replica.readDefinitions.2 _ _).trans rfl
  simp only [reloadLogged]
  split
  · rename_i reload
    rw [reload] at reloaded
    exact reloaded
  · rename_i reload
    rw [reload] at reloaded
    exact reloaded

theorem releaseReload_crew (replica : Replica) (name : String) :
    (replica.releaseReload name).2.crew = replica.crew := by
  simp only [releaseReload]
  split
  · rfl
  · exact applyDefinitions_crew _ _ _

theorem initialise_crew (initialised : replica.initialise = .ok next) :
    next.crew = replica.crew := by
  simp only [initialise, bind, Except.bind] at initialised
  split at initialised <;> cases initialised
  rfl

end Replica

/-- A replica with the duties that its engine has started and that have not begun, and a record
of the tasks that they dispatched: by which entry, and with what arguments. -/
structure Workday where
  replica : Replica
  waiting : List (Firing Duty) := []
  dispatched : List (EntryId × String × List Json) := []

inductive Doing where
  /-- The next step of the run loop that stands at a place. -/
  | step (place : Nat)
  /-- A duty begins that the engine has started. -/
  | begin (place : Nat)
  /-- A reload begins that the engine has started, and its read is answered. -/
  | defer (place : Nat) (name : String)
  /-- The reload that was deferred is done with; a failure is logged. -/
  | finish (name : String)
  /-- Somebody asks for a reload, and its read is answered. -/
  | hold (name : String)
  | release (name : String)
  /-- Work under way goes on, when it has slept long enough. -/
  | wake (worker : Nat)
  | wait (later : Instant)
  | initialise
  | run (loop : Nat)
  | dismiss
  | save (definition : Definition)
  | delete (id : TaskId)
  | failReads (count : Nat)

def Replica.dispatch? (replica : Replica) (firing : Firing Duty) :
    Option (EntryId × String × List Json) :=
  match firing.duty with
  | .task definition =>
    match definition.verdict replica.roster.gated replica.isLeader with
    | .dispatched task values => some (firing.id, task, values)
    | _ => none
  | _ => none

namespace Workday

def withStore (workday : Workday) (store : Store) : Workday :=
  { workday with replica := { workday.replica with store } }

def withEngine (workday : Workday) (engine : Engine Cron.Pattern Duty) : Workday :=
  { workday with replica := workday.replica.withEngine engine }

def perform? (workday : Workday) : Doing → Option Workday
  | .step place => do
    let loop ← workday.replica.engine.loops[place]?
    let (engine, pass) ←
      workday.replica.engine.step? workday.replica.mechanism workday.replica.wall loop
    return { workday with
      replica := (workday.replica.withEngine engine).noteAll pass.notices
      waiting := workday.waiting ++ pass.started }
  | .begin place => do
    let firing ← workday.waiting[place]?
    return {
      replica := workday.replica.perform firing
      waiting := workday.waiting.eraseIdx place
      dispatched := workday.dispatched ++ (workday.replica.dispatch? firing).toList }
  | .defer place name => do
    let firing ← workday.waiting[place]?
    match firing.duty with
    | .reload => return { workday with
        replica := workday.replica.holdReload name, waiting := workday.waiting.eraseIdx place }
    | _ => none
  | .finish name =>
    match workday.replica.releaseReload name with
    | (some (.error error), replica) =>
      some { workday with replica := replica.note (.reloadFailed error.message) }
    | (_, replica) => some { workday with replica }
  | .hold name => some { workday with replica := workday.replica.holdReload name }
  | .release name => some { workday with replica := (workday.replica.releaseReload name).2 }
  | .wake worker => do
    let found ← workday.replica.crew.workers.find? (·.id == worker)
    if Crew.Worker.isDue workday.replica.now found then
      let (crew, engine, journal) := Crew.resume Engine.remove workday.replica.now
        (workday.replica.crew, workday.replica.engine, workday.replica.journal) found
      return { workday with
        replica := { workday.replica.withEngine engine with crew, journal } }
    else none
  | .wait later =>
    if workday.replica.now ≤ later then
      some { workday with replica := { workday.replica with now := later } }
    else none
  | .initialise =>
    match workday.replica.initialise with
    | .ok replica => some { workday with replica }
    | .error _ => some workday
  | .run loop =>
    if workday.replica.engine.isRunning loop then none
    else match workday.replica.runRoster loop with
      | .ok replica => some { workday with replica }
      | .error _ => some workday
  | .dismiss => some (workday.withEngine workday.replica.engine.dismiss)
  | .save definition => some (workday.withStore (workday.replica.store.save definition))
  | .delete id => some (workday.withStore (workday.replica.store.delete id).2)
  | .failReads count => some (workday.withStore (workday.replica.store.failReads count))

/-- All duties are the roster's own: reloads and stored tasks. -/
structure Rostered (workday : Workday) : Prop where
  timetable : workday.replica.engine.timetable.Sound
  entries : ∀ number work, workday.replica.engine.timetable.duty? number ≠ some (.work work)
  waiting : ∀ firing ∈ workday.waiting, ∀ work, firing.duty ≠ .work work

/-- All that a doing can do, in terms of what it makes of the replica and of what waits. -/
inductive Wrought (workday : Workday) : Doing → Workday → Prop
  | stepped {place loop engine pass} : workday.replica.engine.loops[place]? = some loop →
      workday.replica.engine.step? workday.replica.mechanism workday.replica.wall loop =
        some (engine, pass) →
      Wrought workday (.step place) { workday with
        replica := (workday.replica.withEngine engine).noteAll pass.notices
        waiting := workday.waiting ++ pass.started }
  | began {place firing} : workday.waiting[place]? = some firing →
      workday.replica.Deals workday.replica.Knows (workday.replica.perform firing) →
      Wrought workday (.begin place) {
        replica := workday.replica.perform firing
        waiting := workday.waiting.eraseIdx place
        dispatched := workday.dispatched ++ (workday.replica.dispatch? firing).toList }
  | dealt {doing replica waiting} : (∀ place, doing ≠ .step place) → (∀ loop, doing ≠ .run loop) →
      workday.replica.Deals workday.replica.Knows replica →
      replica.crew = workday.replica.crew → waiting.Sublist workday.waiting →
      Wrought workday doing { workday with replica, waiting }
  | woken {worker found crew engine journal} :
      workday.replica.crew.workers.find? (·.id == worker) = some found →
      Crew.Worker.isDue workday.replica.now found = true →
      Crew.resume Engine.remove workday.replica.now
        (workday.replica.crew, workday.replica.engine, workday.replica.journal) found =
          (crew, engine, journal) →
      workday.replica.engine.Touches workday.replica.Knows engine →
      Wrought workday (.wake worker) { workday with
        replica := { workday.replica.withEngine engine with crew, journal } }
  | waited {later} : workday.replica.now ≤ later →
      Wrought workday (.wait later)
        { workday with replica := { workday.replica with now := later } }
  | ran {loop ready} : workday.replica.Deals workday.replica.Knows ready →
      ready.crew = workday.replica.crew →
      Wrought workday (.run loop)
        { workday with replica := ready.withEngine (ready.engine.run loop) }
  | unrun {loop} : Wrought workday (.run loop) workday
  | dismissed : Wrought workday .dismiss (workday.withEngine workday.replica.engine.dismiss)
  | stored {doing store} : (∀ place, doing ≠ .step place) → (∀ loop, doing ≠ .run loop) →
      Wrought workday doing (workday.withStore store)

variable {workday next last : Workday} {doing : Doing}

theorem perform?_wrought (performed : workday.perform? doing = some next) :
    workday.Wrought doing next := by
  have stored (definition : Definition)
      (member : definition ∈ Rows.values workday.replica.store.rows) :
      workday.replica.Knows definition := .inl member
  have read (name : String) (ticket : Nat) (definitions : List Definition)
      (present : (name, ticket, .ok definitions) ∈ workday.replica.held)
      (definition : Definition) (member : definition ∈ definitions) :
      workday.replica.Knows definition := .inr ⟨name, ticket, definitions, present, member⟩
  cases doing with
  | step place =>
      simp only [perform?, bind, Option.bind_eq_some_iff] at performed
      obtain ⟨loop, found, ⟨engine, pass⟩, stepped, performed⟩ := performed
      cases performed
      exact .stepped found stepped
  | begin place =>
      simp only [perform?, bind, Option.bind_eq_some_iff] at performed
      obtain ⟨firing, found, performed⟩ := performed
      cases performed
      exact .began found (Replica.deals_perform _ _ stored)
  | defer place name =>
      simp only [perform?, bind, Option.bind_eq_some_iff] at performed
      obtain ⟨firing, found, performed⟩ := performed
      split at performed
      · cases performed
        exact .dealt (by simp) (by simp) (Replica.deals_holdReload _ _ name) rfl
          (List.eraseIdx_sublist ..)
      · cases performed
  | finish name =>
      have released := workday.replica.deals_releaseReload name read
      have same := workday.replica.releaseReload_crew name
      simp only [perform?] at performed
      split at performed
      · rename_i error replica answer
        cases performed
        rw [answer] at released same
        exact .dealt (by simp) (by simp) (released.trans (Replica.deals_note _ _ _)) same (.refl _)
      · rename_i replica _ answer
        cases performed
        rw [answer] at released same
        exact .dealt (by simp) (by simp) released same (.refl _)
  | hold name =>
      cases performed
      exact .dealt (by simp) (by simp) (Replica.deals_holdReload _ _ name) rfl (.refl _)
  | release name =>
      cases performed
      exact .dealt (by simp) (by simp) (workday.replica.deals_releaseReload name read)
        (workday.replica.releaseReload_crew name) (.refl _)
  | wake worker =>
      simp only [perform?, bind, Option.bind_eq_some_iff] at performed
      obtain ⟨found, listed, performed⟩ := performed
      split at performed
      · rename_i due
        cases performed
        refine .woken listed due rfl ?_
        have removes (number : EntryId) (engine : Engine Cron.Pattern Duty)
            (touches : workday.replica.engine.Touches workday.replica.Knows engine) :
            workday.replica.engine.Touches workday.replica.Knows (engine.remove number).2 :=
          touches.tail (.removed number)
        exact Crew.resume_keeps removes _ _ _ found .refl
      · cases performed
  | wait later =>
      obtain ⟨goes, performed⟩ := Option.ite_none_right_eq_some.mp performed
      cases performed
      exact .waited goes
  | initialise =>
      simp only [perform?] at performed
      split at performed
      · rename_i replica initialised
        cases performed
        exact .dealt (by simp) (by simp) (Replica.deals_initialise _ initialised)
          (Replica.initialise_crew initialised) (.refl _)
      · cases performed
        exact .dealt (by simp) (by simp) (.refl _) rfl (.refl _)
  | run loop =>
      simp only [perform?, Option.ite_none_left_eq_some] at performed
      obtain ⟨_, performed⟩ := performed
      split at performed
      · rename_i replica ran
        cases performed
        simp only [Replica.runRoster, bind, Except.bind] at ran
        split at ran
        · cases ran
        · rename_i ready initialised
          cases ran
          exact .ran (Replica.deals_initialise _ initialised)
            (Replica.initialise_crew initialised)
      · cases performed
        exact .unrun
  | dismiss =>
      cases performed
      exact .dismissed
  | save definition =>
      cases performed
      exact .stored (by simp) (by simp)
  | delete id =>
      cases performed
      exact .stored (by simp) (by simp)
  | failReads count =>
      cases performed
      exact .stored (by simp) (by simp)

namespace Wrought

variable (wrought : workday.Wrought doing next)

include wrought

theorem cluster : next.replica.cluster = workday.replica.cluster := by
  cases wrought with
  | began _ deals => exact deals.cluster
  | dealt _ _ deals => exact deals.cluster
  | ran deals => exact deals.cluster
  | _ => rfl

theorem gated : next.replica.roster.gated = workday.replica.roster.gated := by
  cases wrought with
  | began _ deals => exact deals.roster.gated
  | dealt _ _ deals => exact deals.roster.gated
  | ran deals => exact deals.roster.gated
  | _ => rfl

theorem sound (sound : workday.replica.engine.timetable.Sound) :
    next.replica.engine.timetable.Sound := by
  cases wrought with
  | @stepped _ _ engine _ _ stepped =>
      have same : engine.timetable = workday.replica.engine.timetable ∨ engine.timetable = _ :=
        Engine.step?_timetable stepped
      change engine.timetable.Sound
      rcases same with same | fired
      · rw [same]
        exact sound
      · rw [fired]
        exact sound.fire _ _
  | began _ deals => exact deals.roster.engine.sound sound
  | dealt _ _ deals => exact deals.roster.engine.sound sound
  | woken _ _ _ touches => exact touches.sound sound
  | ran deals => exact deals.roster.engine.sound sound
  | dismissed =>
      change workday.replica.engine.dismiss.timetable.Sound
      rw [Engine.dismiss_timetable]
      exact sound
  | _ => exact sound

theorem duty? (sound : workday.replica.engine.timetable.Sound) {number : EntryId} {duty : Duty}
    (stands : next.replica.engine.timetable.duty? number = some duty) :
    workday.replica.engine.timetable.duty? number = some duty ∨
      workday.replica.engine.timetable.nextId ≤ number ∧ duty.ComesFrom workday.replica.Knows := by
  cases wrought with
  | @stepped _ _ engine _ _ stepped =>
      have same : engine.timetable = workday.replica.engine.timetable ∨ engine.timetable = _ :=
        Engine.step?_timetable stepped
      change engine.timetable.duty? number = some duty at stands
      rcases same with same | fired
      · rw [same] at stands
        exact .inl stands
      · rw [fired, Timetable.duty?_fire] at stands
        exact .inl stands
  | began _ deals => exact deals.roster.engine.duty? sound stands
  | dealt _ _ deals => exact deals.roster.engine.duty? sound stands
  | woken _ _ _ touches => exact touches.duty? sound stands
  | ran deals => exact deals.roster.engine.duty? sound stands
  | dismissed =>
      change workday.replica.engine.dismiss.timetable.duty? number = some duty at stands
      rw [Engine.dismiss_timetable] at stands
      exact .inl stands
  | _ => exact .inl stands

theorem waiting (sound : workday.replica.engine.timetable.Sound) {firing : Firing Duty}
    (waits : firing ∈ next.waiting) : firing ∈ workday.waiting ∨
      workday.replica.engine.timetable.duty? firing.id = some firing.duty := by
  cases wrought with
  | stepped _ stepped =>
      rcases List.mem_append.mp waits with old | started
      · exact .inl old
      · exact .inr (Engine.step?_started stepped sound started)
  | began => exact .inl ((List.eraseIdx_sublist ..).subset waits)
  | dealt _ _ _ _ fewer => exact .inl (fewer.subset waits)
  | _ => exact .inl waits

theorem rostered (rostered : workday.Rostered) : next.Rostered where
  timetable := wrought.sound rostered.timetable
  entries number work stands := by
    rcases wrought.duty? rostered.timetable stands with old | ⟨_, comes⟩
    · exact rostered.entries number work old
    · exact comes
  waiting firing waits work same := by
    rcases wrought.waiting rostered.timetable waits with old | stands
    · exact rostered.waiting firing old work same
    · exact rostered.entries firing.id work (same ▸ stands)

theorem held {name : String} {ticket : Nat} {definitions : List Definition}
    (present : (name, ticket, .ok definitions) ∈ next.replica.held) :
    (name, ticket, .ok definitions) ∈ workday.replica.held ∨
      definitions = Rows.values workday.replica.store.rows := by
  cases wrought with
  | began _ deals => exact deals.held name ticket definitions present
  | dealt _ _ deals => exact deals.held name ticket definitions present
  | ran deals => exact deals.held name ticket definitions present
  | _ => exact .inl present

theorem crew (sound : workday.replica.crew.Sound) : next.replica.crew.Sound := by
  cases wrought with
  | began _ deals => exact sound.allHires deals.crew
  | dealt _ _ _ crew => exact crew ▸ sound
  | @woken _ found _ _ _ listed _ resumed =>
      have kept := sound.resume Engine.remove workday.replica.now workday.replica.engine
        workday.replica.journal (List.mem_of_find?_eq_some listed)
      rw [resumed] at kept
      exact kept
  | ran _ crew => exact crew ▸ sound
  | _ => exact sound

theorem keeps {kept : Option (Instant × Work) → Prop} {worker : Nat}
    (keeps : workday.replica.crew.Keeps kept (· = worker))
    (hired : worker < workday.replica.crew.hired)
    (goesOn : ∀ now (engine : Engine Cron.Pattern Duty) journal wake next,
      kept (some (wake, next)) →
        (next.perform Engine.remove now engine journal).1.Keeps kept) :
    next.replica.crew.Keeps kept (· = worker) ∧ worker < next.replica.crew.hired := by
  cases wrought with
  | began _ deals => exact keeps.hires hired deals.crew
  | dealt _ _ _ crew => exact crew ▸ ⟨keeps, hired⟩
  | @woken _ found _ _ _ listed _ resumed =>
      have kept := keeps.resume Engine.remove workday.replica.now workday.replica.engine
        workday.replica.journal (List.mem_of_find?_eq_some listed) (goesOn _ _ _)
      have same := Crew.resume_hired Engine.remove workday.replica.now workday.replica.crew
        workday.replica.engine workday.replica.journal found
      rw [resumed] at kept same
      exact ⟨kept, same ▸ hired⟩
  | ran _ crew => exact crew ▸ ⟨keeps, hired⟩
  | _ => exact ⟨keeps, hired⟩

theorem hired (unbegun : ∀ place, doing ≠ .begin place) :
    next.replica.crew.hired = workday.replica.crew.hired ∧
      next.dispatched = workday.dispatched := by
  cases wrought with
  | began => exact absurd rfl (unbegun _)
  | dealt _ _ _ crew => exact ⟨congrArg Crew.hired crew, rfl⟩
  | @woken _ found _ _ _ _ _ resumed =>
      refine ⟨?_, rfl⟩
      have hired := Crew.resume_hired Engine.remove workday.replica.now workday.replica.crew
        workday.replica.engine workday.replica.journal found
      rw [resumed] at hired
      exact hired
  | ran _ crew => exact ⟨congrArg Crew.hired crew, rfl⟩
  | _ => exact ⟨rfl, rfl⟩

end Wrought

def follow? (workday : Workday) (doings : List Doing) : Option Workday :=
  doings.foldlM perform? workday

theorem follow?_append {earlier later : List Doing}
    (followed : workday.follow? earlier = some next) :
    workday.follow? (earlier ++ later) = next.follow? later := by
  have ran : earlier.foldlM perform? workday = some next := followed
  simp [follow?, List.foldlM_append, ran]

end Workday

end Rota
