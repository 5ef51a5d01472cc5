import Rota.Proofs.Replica.Workday

/-!
Work that leaves the engine alone. Whatever becomes of such work, and whenever, the rest of the
replica goes on as if there had been other work, or none. Main statement: the same doings lead
replicas that differ in their handlers only to states that differ in their work only.
-/

namespace Rota

open Rota.Schedule Rota.Task

/-! Work that removes no entries. -/

namespace Task

def Work.Spares : Work → Prop
  | finish => True
  | fail _ => True
  | panic _ => True
  | hang => True
  | record _ next => next.Spares
  | note _ next => next.Spares
  | sleep _ next => next.Spares
  | removeEntry _ _ => False

/-- However a task is called, its work removes no entries. -/
def Registry.Spares (registry : Registry) : Prop :=
  ∀ task values, (registry.invoke task values).Spares

def Sparing (rest : Option (Instant × Work)) : Prop :=
  ∀ wake next, rest = some (wake, next) → next.Spares

/-- The workers with certain numbers remove no entries. -/
def Crew.Spares (crew : Crew) (among : Nat → Prop) : Prop := crew.Keeps Sparing among

theorem Registry.spares_dispatch {registry : Registry} {task : String} {values : List Json}
    (spares : (registry.invoke task values).Spares) {assignment : Assignment}
    (known : registry.dispatch task values = .ok assignment) : assignment.work.Spares := by
  simp only [Registry.dispatch, Registry.invoke] at known spares
  split at known
  · cases known
  · rename_i found
    cases known
    rw [found] at spares
    exact spares

variable {σ : Type} (remove : EntryId → σ → Bool × σ) (now : Instant) (state : σ)
  (journal : Journal)

theorem Work.Spares.perform {work : Work} (spares : work.Spares) :
    (work.perform remove now state journal).2.1 = state ∧
      (work.perform remove now state journal).1.Keeps Sparing := by
  induction work generalizing journal with
  | finish => exact ⟨rfl, trivial⟩
  | fail error => exact ⟨rfl, trivial⟩
  | panic cause => exact ⟨rfl, trivial⟩
  | hang => exact ⟨rfl, by simp [Work.perform, Rest.Keeps, Sparing]⟩
  | record event next ih => exact ih _ spares
  | note notice next ih => exact ih _ spares
  | sleep duration next ih =>
      cases duration with
      | zero => exact ih _ spares
      | succ duration =>
          refine ⟨rfl, ?_⟩
          rintro wake later same
          cases same
          exact spares
  | removeEntry entry next => exact spares.elim

theorem Sparing.goes_on {wake : Instant} {next : Work} (spares : Sparing (some (wake, next))) :
    (next.perform remove now state journal).1.Keeps Sparing :=
  ((spares wake next rfl).perform remove now state journal).2

namespace Crew

variable {crew : Crew} {among : Nat → Prop}

theorem Spares.start (spares : crew.Spares among) {assignment : Assignment}
    (sparing : among crew.hired → assignment.work.Spares) :
    (crew.start remove now assignment state journal).2.1.Spares among := by
  have more : Crew.Spares { crew with hired := crew.hired + 1 } among := spares
  exact Keeps.settle more now _ _ fun chosen =>
    ((sparing chosen).perform remove now state journal).2

theorem Spares.resume (spares : crew.Spares among) {worker : Worker}
    (member : worker ∈ crew.workers) :
    (resume remove now (crew, state, journal) worker).1.Spares among :=
  Keeps.resume spares remove now state journal member fun _ _ => Sparing.goes_on _ _ _ _

theorem resume_state {worker : Worker} (spares : Sparing worker.rest) :
    (resume remove now (crew, state, journal) worker).2.1 = state := by
  simp only [Crew.resume]
  split
  · rfl
  · rename_i wake next resting
    exact ((spares wake next resting).perform remove now state journal).1

end Crew

end Task

namespace Replica

/-- Replicas that differ in their handlers, in the work under way and in what is logged. -/
def Alike (left right : Replica) : Prop :=
  ∃ registry crew journal, right = { left with registry, crew, journal }

structure Spares (replica : Replica) : Prop where
  registry : replica.registry.Spares
  crew : replica.crew.Spares fun _ => True

variable {left right replica next : Replica}

namespace Alike

theorem refl (replica : Replica) : replica.Alike replica :=
  ⟨replica.registry, replica.crew, replica.journal, rfl⟩

theorem symm (alike : left.Alike right) : right.Alike left := by
  obtain ⟨_, _, _, rfl⟩ := alike
  exact ⟨left.registry, left.crew, left.journal, rfl⟩

theorem trans {middle : Replica} (first : left.Alike middle) (second : middle.Alike right) :
    left.Alike right := by
  obtain ⟨_, _, _, rfl⟩ := first
  obtain ⟨registry, crew, journal, rfl⟩ := second
  exact ⟨registry, crew, journal, rfl⟩

theorem applyDefinitions (alike : left.Alike right) (ticket : Nat)
    (read : Except Error (List Definition)) :
    (left.applyDefinitions ticket read).1 = (right.applyDefinitions ticket read).1 ∧
      (left.applyDefinitions ticket read).2.Alike (right.applyDefinitions ticket read).2 := by
  obtain ⟨registry, crew, _, rfl⟩ := alike
  cases read with
  | error error => exact ⟨rfl, registry, crew, _, rfl⟩
  | ok definitions => exact ⟨rfl, registry, crew, _, rfl⟩

theorem readDefinitions (alike : left.Alike right) :
    left.readDefinitions.1 = right.readDefinitions.1 ∧
      left.readDefinitions.2.Alike right.readDefinitions.2 := by
  obtain ⟨registry, crew, journal, rfl⟩ := alike
  exact ⟨rfl, registry, crew, journal, rfl⟩

theorem note (alike : left.Alike right) (notice other : Notice) :
    (left.note notice).Alike (right.note other) := by
  obtain ⟨registry, crew, _, rfl⟩ := alike
  exact ⟨registry, crew, _, rfl⟩

theorem reload (alike : left.Alike right) :
    left.reload.1 = right.reload.1 ∧ left.reload.2.Alike right.reload.2 := by
  obtain ⟨same, begun⟩ := alike.readDefinitions
  simp only [Replica.reload, ← same]
  exact begun.applyDefinitions _ _

theorem reloadLogged (alike : left.Alike right) (notice : String → Notice) :
    (left.reloadLogged notice).Alike (right.reloadLogged notice) := by
  obtain ⟨same, reloaded⟩ := alike.reload
  unfold Replica.reloadLogged
  cases first : left.reload with
  | mk answer left =>
    cases second : right.reload with
    | mk other right =>
      rw [first, second] at same reloaded
      cases same
      cases answer with
      | ok summary => exact reloaded
      | error error => exact reloaded.note _ _

theorem initialise (alike : left.Alike right) :
    match left.initialise, right.initialise with
    | .ok next, .ok other => next.Alike other
    | .error error, .error other => error = other
    | _, _ => False := by
  obtain ⟨registry, crew, journal, rfl⟩ := alike
  have same : ({ left with registry, crew, journal } : Replica).initialise =
      left.initialise.map fun next => { next with registry, crew, journal } := by
    simp only [Replica.initialise, bind, Except.bind, Replica.mechanism, Replica.wall]
    cases left.roster.initialise (Cron.mechanism left.offset) (left.origin + left.now) <;> rfl
  rw [same]
  cases left.initialise with
  | error error => exact rfl
  | ok next => exact ⟨registry, crew, journal, rfl⟩

theorem withEngine (alike : left.Alike right) (change : Engine Cron.Pattern Duty →
    Engine Cron.Pattern Duty) :
    (left.withEngine (change left.engine)).Alike (right.withEngine (change right.engine)) := by
  obtain ⟨registry, crew, journal, rfl⟩ := alike
  exact ⟨registry, crew, journal, rfl⟩

theorem runRoster (alike : left.Alike right) (loop : Nat) :
    match left.runRoster loop, right.runRoster loop with
    | .ok next, .ok other => next.Alike other
    | .error error, .error other => error = other
    | _, _ => False := by
  have initialised := alike.initialise
  simp only [Replica.runRoster, bind, Except.bind]
  cases first : left.initialise <;> cases second : right.initialise <;>
    rw [first, second] at initialised
  · exact initialised
  · exact initialised
  · exact initialised
  · exact initialised.withEngine (·.run loop)

theorem holdReload (alike : left.Alike right) (name : String) :
    (left.holdReload name).Alike (right.holdReload name) := by
  obtain ⟨registry, crew, journal, rfl⟩ := alike
  exact ⟨registry, crew, journal, rfl⟩

theorem releaseReload (alike : left.Alike right) (name : String) :
    (left.releaseReload name).1 = (right.releaseReload name).1 ∧
      (left.releaseReload name).2.Alike (right.releaseReload name).2 := by
  have held : left.held = right.held := by
    obtain ⟨_, _, _, rfl⟩ := alike
    rfl
  simp only [Replica.releaseReload, ← held]
  cases left.held.find? (·.1 == name) with
  | none => exact ⟨rfl, alike⟩
  | some found =>
      obtain ⟨_, ticket, read⟩ := found
      have begun : ({ left with held := left.held.filter (·.1 != name) } : Replica).Alike
          { right with held := left.held.filter (·.1 != name) } := by
        obtain ⟨registry, crew, journal, rfl⟩ := alike
        exact ⟨registry, crew, journal, rfl⟩
      obtain ⟨same, applied⟩ := begun.applyDefinitions ticket read
      exact ⟨congrArg some same, applied⟩

end Alike

theorem alike_dispatch (replica : Replica) {task : String} {values : List Json}
    (spares : (replica.registry.invoke task values).Spares) :
    replica.Alike (replica.dispatch task values).2 := by
  simp only [Replica.dispatch]
  split
  · exact ⟨replica.registry, replica.crew, _, rfl⟩
  · rename_i assignment known
    -- The work begins at once, and gives the engine back as it was when it first rests or ends.
    have same : (replica.crew.start Engine.remove replica.now assignment replica.engine
        replica.journal).2.2.1 = replica.engine :=
      (Registry.spares_dispatch spares known |>.perform Engine.remove replica.now _ _).1
    simp only [Replica.assign]
    generalize replica.crew.start Engine.remove replica.now assignment replica.engine
      replica.journal = started at same ⊢
    obtain ⟨id, crew, engine, journal⟩ := started
    cases same
    exact ⟨replica.registry, crew, journal, rfl⟩

theorem Spares.dispatch (spares : replica.Spares) (task : String) (values : List Json) :
    (replica.dispatch task values).2.Spares := by
  simp only [Replica.dispatch]
  split
  · exact ⟨spares.registry, spares.crew⟩
  · rename_i assignment known
    have sparing := Registry.spares_dispatch (spares.registry task values) known
    exact ⟨spares.registry,
      spares.crew.start Engine.remove replica.now replica.engine replica.journal fun _ => sparing⟩

theorem tames_dispatch (sound : replica.crew.Sound) {task : String} {values : List Json}
    {worker : Nat} (spares : (replica.registry.invoke task values).Spares)
    (given : (replica.dispatch task values).1 = some worker) :
    (replica.dispatch task values).2.crew.Spares (· = worker) ∧
      worker < (replica.dispatch task values).2.crew.hired := by
  simp only [Replica.dispatch] at given ⊢
  split at given
  · cases given
  · rename_i assignment known
    cases given
    have others : replica.crew.Spares (· = replica.crew.hired) :=
      fun other member same => absurd same (Nat.ne_of_lt (sound.hired other member))
    have sparing := Registry.spares_dispatch spares known
    refine ⟨?_, ?_⟩
    · exact others.start Engine.remove replica.now replica.engine replica.journal fun _ => sparing
    · have hired : (replica.assign assignment).2.crew.hired = replica.crew.hired + 1 :=
        Crew.settle_hired ..
      exact hired ▸ Nat.lt_succ_self _

theorem Spares.of_eq (spares : replica.Spares) (registry : next.registry = replica.registry)
    (crew : next.crew = replica.crew) : next.Spares :=
  ⟨registry ▸ spares.registry, crew ▸ spares.crew⟩

theorem Alike.verdict (alike : left.Alike right) (definition : Definition) :
    definition.verdict right.roster.gated right.isLeader =
      definition.verdict left.roster.gated left.isLeader := by
  obtain ⟨_, _, _, rfl⟩ := alike
  rfl

theorem Alike.dispatch? (alike : left.Alike right) (firing : Firing Duty) :
    right.dispatch? firing = left.dispatch? firing := by
  simp only [Replica.dispatch?, alike.verdict]

variable {firing : Firing Duty}

theorem Spares.perform (spares : replica.Spares) (kept : ∀ work, firing.duty ≠ .work work) :
    (replica.perform firing).Spares := by
  simp only [Replica.perform]
  split
  · have deals : replica.Deals replica.Knows (replica.reloadLogged .reloadFailed) :=
      deals_reloadLogged replica _ fun _ => .inl
    exact spares.of_eq deals.registry (reloadLogged_crew replica _)
  · split
    · exact spares
    · exact spares.of_eq rfl rfl
    · exact spares.dispatch _ _
  · exact absurd ‹firing.duty = _› (kept _)
  · exact spares

/-- A duty leaves replicas alike that were alike, whatever becomes of the tasks. -/
theorem Alike.perform (alike : left.Alike right) (here : left.Spares) (there : right.Spares)
    (kept : ∀ work, firing.duty ≠ .work work) :
    (left.perform firing).Alike (right.perform firing) := by
  simp only [Replica.perform]
  split
  · exact alike.reloadLogged _
  · rw [alike.verdict]
    split
    · exact alike
    · exact alike.note _ _
    · exact ((left.alike_dispatch (here.registry _ _)).symm.trans alike).trans
        (right.alike_dispatch (there.registry _ _))
  · exact absurd ‹firing.duty = _› (kept _)
  · exact alike

end Replica

/-! Replicas at work. -/

namespace Workday

structure Alike (left right : Workday) : Prop where
  replica : left.replica.Alike right.replica
  waiting : right.waiting = left.waiting
  dispatched : right.dispatched = left.dispatched

/-- Nothing that is under way or that may come removes entries behind the roster's back. -/
structure Spares (workday : Workday) : Prop extends Rostered workday where
  replica : workday.replica.Spares

variable {workday left right next other last : Workday} {doing : Doing}

namespace Alike

theorem refl (workday : Workday) : workday.Alike workday := ⟨.refl _, rfl, rfl⟩

theorem symm (alike : left.Alike right) : right.Alike left :=
  ⟨alike.replica.symm, alike.waiting.symm, alike.dispatched.symm⟩

theorem trans {middle : Workday} (first : left.Alike middle) (second : middle.Alike right) :
    left.Alike right :=
  ⟨first.replica.trans second.replica, second.waiting.trans first.waiting,
    second.dispatched.trans first.dispatched⟩

end Alike

theorem Spares.wrought (spares : workday.Spares) (wrought : workday.Wrought doing next) :
    next.Spares := by
  refine ⟨wrought.rostered spares.toRostered, ?_⟩
  cases wrought with
  | began waits => exact spares.replica.perform (spares.waiting _ (List.mem_of_getElem? waits))
  | dealt _ _ deals crew => exact spares.replica.of_eq deals.registry crew
  | @woken _ found _ _ _ listed _ resumed =>
      have kept := spares.replica.crew.resume Engine.remove workday.replica.now
        workday.replica.engine workday.replica.journal (List.mem_of_find?_eq_some listed)
      rw [resumed] at kept
      exact ⟨spares.replica.registry, kept⟩
  | ran deals crew => exact spares.replica.of_eq deals.registry crew
  | _ => exact spares.replica.of_eq rfl rfl

theorem alike_wake {worker : Nat} (spares : workday.replica.crew.Spares (· = worker))
    (performed : workday.perform? (.wake worker) = some next) : workday.Alike next := by
  simp only [Workday.perform?, bind, Option.bind_eq_some_iff] at performed
  obtain ⟨found, listed, performed⟩ := performed
  split at performed
  · have chosen : found.id = worker := by simpa using List.find?_some listed
    have same : (Crew.resume Engine.remove workday.replica.now
        (workday.replica.crew, workday.replica.engine, workday.replica.journal) found).2.1 =
          workday.replica.engine :=
      Crew.resume_state _ _ _ _ (spares found (List.mem_of_find?_eq_some listed) chosen)
    generalize Crew.resume Engine.remove workday.replica.now
      (workday.replica.crew, workday.replica.engine, workday.replica.journal) found = resumed
      at same performed
    obtain ⟨crew, engine, journal⟩ := resumed
    cases same
    cases performed
    exact ⟨⟨workday.replica.registry, crew, journal, rfl⟩, rfl, rfl⟩
  · cases performed

theorem Spares.wake (spares : workday.Spares) {worker : Nat}
    (performed : workday.perform? (.wake worker) = some next) : workday.Alike next :=
  alike_wake (fun found listed _ => spares.replica.crew found listed trivial) performed

/-- A worker is on the books whose work removes no entries. -/
structure Tames (workday : Workday) (worker : Nat) : Prop where
  spares : workday.replica.crew.Spares (· = worker)
  hired : worker < workday.replica.crew.hired

theorem Tames.wrought {worker : Nat} (tames : workday.Tames worker)
    (wrought : workday.Wrought doing next) : next.Tames worker := by
  obtain ⟨spares, hired⟩ := wrought.keeps tames.spares tames.hired fun _ _ _ _ _ =>
    Sparing.goes_on _ _ _ _
  exact ⟨spares, hired⟩

theorem Alike.perform? (alike : left.Alike right) (here : left.Spares) (there : right.Spares)
    (awake : ∀ worker, doing ≠ .wake worker) (performed : left.perform? doing = some next) :
    ∃ other, right.perform? doing = some other ∧ next.Alike other := by
  have replicas := alike.replica
  obtain ⟨registry, crew, journal, same⟩ := alike.replica
  cases doing with
  | step place =>
      simp only [Workday.perform?, bind, Option.bind_eq_some_iff] at performed
      obtain ⟨loop, found, ⟨engine, pass⟩, stepped, performed⟩ := performed
      cases performed
      simp only [Workday.perform?, same, alike.waiting]
      refine ⟨_, Option.bind_eq_some_iff.mpr ⟨loop, found, Option.bind_eq_some_iff.mpr
        ⟨(engine, pass), stepped, rfl⟩⟩, ⟨registry, crew, _, rfl⟩, rfl, alike.dispatched⟩
  | begin place =>
      simp only [Workday.perform?, bind, Option.bind_eq_some_iff] at performed
      obtain ⟨firing, found, performed⟩ := performed
      cases performed
      have kept := here.waiting firing (List.mem_of_getElem? found)
      simp only [Workday.perform?, alike.waiting]
      refine ⟨_, Option.bind_eq_some_iff.mpr ⟨firing, found, rfl⟩,
        replicas.perform here.replica there.replica kept, rfl, ?_⟩
      simp only [alike.dispatched, replicas.dispatch?]
  | defer place name =>
      simp only [Workday.perform?, bind, Option.bind_eq_some_iff] at performed
      obtain ⟨firing, found, performed⟩ := performed
      split at performed
      · rename_i reloads
        cases performed
        refine ⟨{ right with replica := right.replica.holdReload name
                             waiting := right.waiting.eraseIdx place }, ?_,
          replicas.holdReload name, congrArg (List.eraseIdx · place) alike.waiting,
          alike.dispatched⟩
        simp only [Workday.perform?, alike.waiting, found, bind, Option.bind_some, reloads]
        rfl
      · cases performed
  | finish name =>
      obtain ⟨answers, released⟩ := replicas.releaseReload name
      simp only [Workday.perform?] at performed ⊢
      generalize left.replica.releaseReload name = ending at answers released performed
      generalize right.replica.releaseReload name = other at answers released ⊢
      obtain ⟨answer, reached⟩ := ending
      obtain ⟨_, final⟩ := other
      cases answers
      rcases answer with _ | (_ | _)
      · cases performed
        exact ⟨_, rfl, released, alike.waiting, alike.dispatched⟩
      · cases performed
        exact ⟨_, rfl, released.note _ _, alike.waiting, alike.dispatched⟩
      · cases performed
        exact ⟨_, rfl, released, alike.waiting, alike.dispatched⟩
  | hold name =>
      cases performed
      exact ⟨_, rfl, replicas.holdReload name, alike.waiting, alike.dispatched⟩
  | release name =>
      cases performed
      exact ⟨_, rfl, (replicas.releaseReload name).2, alike.waiting, alike.dispatched⟩
  | wake worker => exact absurd rfl (awake worker)
  | wait later =>
      obtain ⟨goes, performed⟩ := Option.ite_none_right_eq_some.mp performed
      cases performed
      have goesThere : right.replica.now ≤ later := same ▸ goes
      refine ⟨_, if_pos goesThere, ⟨registry, crew, journal, ?_⟩, alike.waiting, alike.dispatched⟩
      rw [same]
  | initialise =>
      have initialised := replicas.initialise
      simp only [Workday.perform?] at performed ⊢
      cases first : left.replica.initialise <;> cases second : right.replica.initialise <;>
        rw [first, second] at initialised <;> rw [first] at performed <;> cases performed
      · exact ⟨right, rfl, replicas, alike.waiting, alike.dispatched⟩
      · exact initialised.elim
      · exact initialised.elim
      · exact ⟨_, rfl, initialised, alike.waiting, alike.dispatched⟩
  | run loop =>
      have ran := replicas.runRoster loop
      have engines : right.replica.engine = left.replica.engine := by
        rw [same]
        rfl
      simp only [Workday.perform?, engines] at performed ⊢
      split at performed
      · cases performed
      · rename_i idle
        rw [if_neg idle]
        cases first : left.replica.runRoster loop <;>
          cases second : right.replica.runRoster loop <;>
          rw [first, second] at ran <;> rw [first] at performed <;> cases performed
        · exact ⟨right, rfl, replicas, alike.waiting, alike.dispatched⟩
        · exact ran.elim
        · exact ran.elim
        · exact ⟨_, rfl, ran, alike.waiting, alike.dispatched⟩
  | dismiss =>
      cases performed
      exact ⟨_, rfl, replicas.withEngine Engine.dismiss, alike.waiting, alike.dispatched⟩
  | save definition =>
      cases performed
      refine ⟨_, rfl, ⟨registry, crew, journal, ?_⟩, alike.waiting, alike.dispatched⟩
      simp only [withStore, same]
  | delete id =>
      cases performed
      refine ⟨_, rfl, ⟨registry, crew, journal, ?_⟩, alike.waiting, alike.dispatched⟩
      simp only [withStore, same]
  | failReads count =>
      cases performed
      refine ⟨_, rfl, ⟨registry, crew, journal, ?_⟩, alike.waiting, alike.dispatched⟩
      simp only [withStore, same]

end Workday

end Rota
