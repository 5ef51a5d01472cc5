import Mathlib.Data.Fintype.EquivFin
import Rota.Cron.Mechanism
import Rota.Proofs.Schedule.Reconcile
import Rota.Proofs.Schedule.Shift

/-!
Engines that have stopped, with any number of run loops. A stopped engine takes no entry any
more. What it still holds can be started all the same, by a loop that the shutdown has not
reached or by one that is run afterwards. Main statement: which entries can be started yet, and
that none is when no loop is left and none is run.
-/

namespace Rota.Schedule

variable {σ δ : Type} {mechanism : Mechanism σ δ}

namespace Timetable

variable {timetable next last : Timetable σ δ} {now : Wall}

/-- The entry can still come due, and starts when it does. -/
def Live (mechanism : Mechanism σ δ) (entry : Entry σ δ) : Prop :=
  entry.next.isSome = true ∧ mechanism.breaks entry.duty = false

/-- A later timetable without new entries. Those that are left have kept all but their next
times, and what was exhausted is so still. -/
structure Dwindles (timetable next : Timetable σ δ) : Prop where
  nextId : next.nextId = timetable.nextId
  entries : ∀ entry ∈ next.entries, ∃ old ∈ timetable.entries, ∃ moment,
    entry = { old with next := moment } ∧ (old.next = none → moment = none)

theorem Dwindles.refl (timetable : Timetable σ δ) : timetable.Dwindles timetable :=
  ⟨rfl, fun entry member => ⟨entry, member, entry.next, rfl, id⟩⟩

theorem Dwindles.trans (earlier : timetable.Dwindles next) (later : next.Dwindles last) :
    timetable.Dwindles last := by
  refine ⟨later.nextId.trans earlier.nextId, fun entry member => ?_⟩
  obtain ⟨middle, present, moment, rfl, exhausted⟩ := later.entries entry member
  obtain ⟨old, first, before, rfl, ended⟩ := earlier.entries middle present
  exact ⟨old, first, moment, rfl, fun none => exhausted (ended none)⟩

theorem dwindles_remove (number : EntryId) : timetable.Dwindles (timetable.remove number).2 :=
  ⟨rfl, fun entry member => ⟨entry, (List.mem_filter.mp member).1, entry.next, rfl, id⟩⟩

theorem dwindles_fire : timetable.Dwindles (timetable.fire mechanism now).2 := by
  refine ⟨rfl, fun entry member => ?_⟩
  obtain ⟨old, present, rfl⟩ := List.mem_map.mp member
  by_cases due : old.isDue now = true
  · refine ⟨old, present, (mechanism.next old.schedule now).toOption,
      by simp [due, Entry.rescheduled], fun exhausted => ?_⟩
    simp [Entry.isDue, exhausted] at due
  · exact ⟨old, present, old.next, by simp [due], id⟩

theorem Dwindles.spent (dwindles : timetable.Dwindles next)
    (spent : ∀ entry ∈ timetable.entries, ¬Live mechanism entry) :
    ∀ entry ∈ next.entries, ¬Live mechanism entry := by
  rintro entry member ⟨ahead, whole⟩
  obtain ⟨old, present, moment, rfl, exhausted⟩ := dwindles.entries entry member
  refine spent old present ⟨?_, whole⟩
  cases next : old.next with
  | some _ => rfl
  | none => simp [exhausted next] at ahead

end Timetable

namespace Engine

variable {engine next : Engine σ δ} {loop : Loop} {pass : Pass δ} {now : Wall}

theorem add_of_stopped (stopped : engine.stopped = true) (mechanism : Mechanism σ δ) (now : Wall)
    (name expression : String) (duty : δ) :
    engine.add mechanism now name expression duty = .error .engineStopped := by
  simp only [add, stopped]
  rfl

theorem dismiss_stopped (engine : Engine σ δ) : engine.dismiss.stopped = engine.stopped := by
  simp only [dismiss]
  split <;> rfl

theorem fire_spent (spent : ∀ entry ∈ engine.timetable.entries, ¬Timetable.Live mechanism entry)
    (id : Nat) : (engine.fire mechanism now id).2.started = [] := by
  have breaking : ∀ firing ∈ (engine.timetable.fire mechanism now).1,
      (!mechanism.breaks firing.duty) = false := by
    intro firing fired
    obtain ⟨entry, listed, rfl⟩ := List.mem_map.mp fired
    obtain ⟨member, due⟩ := List.mem_filter.mp listed
    have ahead : entry.next.isSome = true := by
      cases next : entry.next with
      | some _ => rfl
      | none => simp [Entry.isDue, next] at due
    have broken : mechanism.breaks entry.duty ≠ false := fun whole =>
      spent entry member ⟨ahead, whole⟩
    simpa [Entry.firing, Entry.rescheduled] using broken
  change List.takeWhile _ (engine.timetable.fire mechanism now).1 = []
  cases firings : (engine.timetable.fire mechanism now).1 with
  | nil => rfl
  | cons firing _ =>
      rw [List.takeWhile_cons_of_neg]
      rw [breaking firing (firings ▸ List.mem_cons_self)]
      simp

theorem Stepped.stopped (stepped : engine.Stepped mechanism now loop next pass)
    (stopped : engine.stopped = true) : next.stopped = true := by
  cases stepped with
  | halted => exact halt_stopped _ loop
  | fired =>
      simp only [fire]
      split <;> exact stopped
  | _ => exact stopped

theorem Stepped.dwindles (stepped : engine.Stepped mechanism now loop next pass) :
    engine.timetable.Dwindles next.timetable := by
  cases stepped with
  | halted same => exact (halt_timetable _ loop).trans same ▸ .refl _
  | fired => exact fire_timetable engine mechanism now loop.id ▸ Timetable.dwindles_fire
  | _ => exact .refl _

theorem Stepped.spent (stepped : engine.Stepped mechanism now loop next pass)
    (spent : ∀ entry ∈ engine.timetable.entries, ¬Timetable.Live mechanism entry) :
    pass.started = [] := by
  cases stepped with
  | fired => exact fire_spent spent loop.id
  | _ => rfl

def Attended (engine : Engine σ δ) (loop : Loop) : Prop :=
  ∃ others, engine.loops = others ++ [loop] ∧ ∀ other ∈ others, other.id ≠ loop.id

theorem Attended.find? (attended : engine.Attended loop) :
    engine.loops.find? (·.id == loop.id) = some loop := by
  obtain ⟨others, loops, apart⟩ := attended
  rw [loops, List.find?_append, List.find?_eq_none.mpr]
  · simp
  · simpa using apart

theorem Attended.withLoop (attended : engine.Attended loop) (phase : LoopPhase) :
    (engine.withLoop loop.id phase).Attended { id := loop.id, phase } := by
  obtain ⟨others, loops, apart⟩ := attended
  refine ⟨others, ?_, apart⟩
  have kept : (others.map fun other =>
      if other.id = loop.id then { id := loop.id, phase } else other) = others := by
    refine (List.map_congr_left fun other member => ?_).trans (List.map_id others)
    simp [apart other member]
  simp [Engine.withLoop, loops, kept]

theorem exists_attended (engine : Engine σ δ) :
    ∃ id, engine.isRunning id = false ∧ (engine.run id).Attended { id } := by
  obtain ⟨id, fresh⟩ := Infinite.exists_notMem_finset (engine.loops.map Loop.id).toFinset
  rw [List.mem_toFinset] at fresh
  have apart : ∀ other ∈ engine.loops, other.id ≠ id :=
    fun other member same => fresh (List.mem_map.mpr ⟨other, member, same⟩)
  refine ⟨id, ?_, engine.loops, rfl, apart⟩
  simpa [isRunning] using apart

end Engine

namespace Shift

/-- What may happen to an engine that any number of loops run, in any order and at any pace. -/
inductive Move (δ : Type) where
  | add (name expression : String) (duty : δ)
  | remove (id : EntryId)
  | dismiss
  | run (loop : Nat)
  | step (loop : Nat)
  | wait (later : Wall)

def move? (mechanism : Mechanism σ δ) (shift : Shift σ δ) : Move δ → Option (Shift σ δ)
  | .add name expression duty => shift.perform? mechanism (.add name expression duty)
  | .remove id => shift.perform? mechanism (.remove id)
  | .dismiss => shift.perform? mechanism .dismiss
  | .run loop =>
    if shift.engine.isRunning loop then none
    else some { shift with engine := shift.engine.run loop }
  | .step loop => do
    let found ← shift.engine.loops.find? (·.id == loop)
    let (engine, pass) ← shift.engine.step? mechanism shift.now found
    return { engine, now := shift.now, starts := shift.starts ++ pass.startsAt shift.now }
  | .wait later => if shift.now ≤ later then some { shift with now := later } else none

def moves? (mechanism : Mechanism σ δ) (shift : Shift σ δ) (moves : List (Move δ)) :
    Option (Shift σ δ) :=
  moves.foldlM (move? mechanism) shift

variable {shift next last : Shift σ δ} {move : Move δ} {moves : List (Move δ)}

inductive Moved (mechanism : Mechanism σ δ) (shift : Shift σ δ) : Move δ → Shift σ δ → Prop
  | changed {move : Move δ} {engine : Engine σ δ} :
      (shift.engine.stopped = true →
        engine.stopped = true ∧ shift.engine.timetable.Dwindles engine.timetable) →
      (shift.engine.timetable.Sound → engine.timetable.Sound) →
      (shift.engine.loops = [] → engine.loops = []) →
      Moved mechanism shift move { shift with engine }
  | ran {loop : Nat} : shift.engine.isRunning loop = false →
      Moved mechanism shift (.run loop) { shift with engine := shift.engine.run loop }
  | stepped {loop : Nat} {found : Loop} {engine : Engine σ δ} {pass : Pass δ} :
      shift.engine.loops.find? (·.id == loop) = some found →
      shift.engine.step? mechanism shift.now found = some (engine, pass) →
      Moved mechanism shift (.step loop)
        { engine, now := shift.now, starts := shift.starts ++ pass.startsAt shift.now }
  | waited {later : Wall} : shift.now ≤ later →
      Moved mechanism shift (.wait later) { shift with now := later }

theorem move?_moved (moved : shift.move? mechanism move = some next) :
    Moved mechanism shift move next := by
  cases move with
  | add name expression duty =>
      simp only [move?, perform?] at moved
      split at moved
      · rename_i added
        cases moved
        obtain ⟨running, timetable, taken, rfl⟩ := Engine.add_eq_ok_iff.mp added
        refine .changed (fun stopped => ?_) (fun sound => ?_) (Engine.add_loops_eq_nil added).mpr
        · rw [running] at stopped
          cases stopped
        · rw [Engine.rouse_timetable]
          exact sound.add taken
      · cases moved
        exact .changed (fun stopped => ⟨stopped, .refl _⟩) id id
  | remove id =>
      cases moved
      refine .changed (fun stopped => ⟨(Engine.remove_stopped shift.engine id).trans stopped, ?_⟩)
        (fun sound => ?_) (Engine.remove_loops_eq_nil id).mpr
      · rw [Engine.remove_timetable]
        exact Timetable.dwindles_remove id
      · rw [Engine.remove_timetable]
        exact sound.remove id
  | dismiss =>
      cases moved
      refine .changed (fun stopped => ⟨(Engine.dismiss_stopped shift.engine).trans stopped, ?_⟩)
        (fun sound => ?_) Engine.dismiss_loops_eq_nil.mpr
      · rw [Engine.dismiss_timetable]
        exact .refl _
      · rw [Engine.dismiss_timetable]
        exact sound
  | run loop =>
      simp only [move?, Option.ite_none_left_eq_some] at moved
      obtain ⟨fresh, moved⟩ := moved
      cases moved
      exact .ran (Bool.eq_false_iff.mpr fresh)
  | step loop =>
      simp only [move?, bind, Option.bind_eq_some_iff] at moved
      obtain ⟨found, listed, ⟨engine, pass⟩, stepped, moved⟩ := moved
      cases moved
      exact .stepped listed stepped
  | wait later =>
      simp only [move?, Option.ite_none_right_eq_some] at moved
      obtain ⟨goes, moved⟩ := moved
      cases moved
      exact .waited goes

theorem Moved.sound (moved : Moved mechanism shift move next)
    (sound : shift.engine.timetable.Sound) : next.engine.timetable.Sound := by
  cases moved with
  | changed _ keeps _ => exact keeps sound
  | ran => exact sound
  | stepped _ stepped =>
      rcases Engine.step?_timetable stepped with same | same
      · exact same ▸ sound
      · exact same ▸ sound.fire mechanism shift.now
  | waited => exact sound

/-! A stopped engine only loses entries. -/

theorem Moved.stopped (moved : Moved mechanism shift move next)
    (stopped : shift.engine.stopped = true) :
    next.engine.stopped = true ∧ shift.engine.timetable.Dwindles next.engine.timetable := by
  cases moved with
  | changed keeps _ _ => exact keeps stopped
  | ran => exact ⟨stopped, .refl _⟩
  | stepped _ stepped =>
      have stepped := Engine.step?_stepped stepped
      exact ⟨stepped.stopped stopped, stepped.dwindles⟩
  | waited => exact ⟨stopped, .refl _⟩

theorem moves?_stopped (followed : shift.moves? mechanism moves = some last)
    (stopped : shift.engine.stopped = true) :
    last.engine.stopped = true ∧ shift.engine.timetable.Dwindles last.engine.timetable := by
  apply run_induction ?_ followed ⟨stopped, .refl _⟩
  rintro move _ before after moved ⟨stopped, dwindles⟩
  obtain ⟨still, fewer⟩ := (move?_moved moved).stopped stopped
  exact ⟨still, dwindles.trans fewer⟩

/-! Without anything to start, or without a loop to start it, nothing is started. -/

theorem Moved.spent (moved : Moved mechanism shift move next)
    (spent : ∀ entry ∈ shift.engine.timetable.entries, ¬Timetable.Live mechanism entry) :
    next.starts = shift.starts := by
  cases moved with
  | stepped _ stepped => simp [Pass.startsAt, (Engine.step?_stepped stepped).spent spent]
  | _ => rfl

theorem moves?_spent (followed : shift.moves? mechanism moves = some last)
    (stopped : shift.engine.stopped = true)
    (spent : ∀ entry ∈ shift.engine.timetable.entries, ¬Timetable.Live mechanism entry) :
    last.starts = shift.starts := by
  have ends : last.engine.stopped = true ∧
      (∀ entry ∈ last.engine.timetable.entries, ¬Timetable.Live mechanism entry) ∧
        last.starts = shift.starts := by
    apply run_induction ?_ followed ⟨stopped, spent, rfl⟩
    rintro move _ before after moved ⟨stopped, spent, same⟩
    have moved := move?_moved moved
    obtain ⟨still, fewer⟩ := moved.stopped stopped
    exact ⟨still, fewer.spent spent, (moved.spent spent).trans same⟩
  exact ends.2.2

theorem Moved.idle (moved : Moved mechanism shift move next) (idle : shift.engine.loops = [])
    (unrun : ∀ loop, move ≠ .run loop) :
    next.engine.loops = [] ∧ next.starts = shift.starts := by
  cases moved with
  | changed _ _ ends => exact ⟨ends idle, rfl⟩
  | ran => exact absurd rfl (unrun _)
  | stepped listed _ => simp [idle] at listed
  | waited => exact ⟨idle, rfl⟩

theorem moves?_idle (followed : shift.moves? mechanism moves = some last)
    (idle : shift.engine.loops = []) (unrun : ∀ loop, .run loop ∉ moves) :
    last.starts = shift.starts := by
  have ends : last.engine.loops = [] ∧ last.starts = shift.starts := by
    apply run_induction ?_ followed ⟨idle, rfl⟩
    rintro move member before after moved ⟨idle, same⟩
    obtain ⟨still, kept⟩ := (move?_moved moved).idle idle fun loop running =>
      unrun loop (running ▸ member)
    exact ⟨still, kept.trans same⟩
  exact ends.2

/-! Whatever can still come due can be started by another loop. -/

/-- Some moves lead from one state to the other, and start nothing at no cost of time. -/
structure Prepares (mechanism : Mechanism σ δ) (shift next : Shift σ δ) : Prop where
  leads : ∃ moves, shift.moves? mechanism moves = some next
  now : next.now = shift.now
  starts : next.starts = shift.starts

theorem Prepares.refl (shift : Shift σ δ) : Prepares mechanism shift shift :=
  ⟨⟨[], rfl⟩, rfl, rfl⟩

theorem moves?_append {others : List (Move δ)} (followed : shift.moves? mechanism moves = some next)
    (onward : next.moves? mechanism others = some last) :
    shift.moves? mechanism (moves ++ others) = some last := by
  simp only [moves?, List.foldlM_append, bind, Option.bind_eq_some_iff]
  exact ⟨next, followed, onward⟩

theorem Prepares.trans (earlier : Prepares mechanism shift next)
    (later : Prepares mechanism next last) : Prepares mechanism shift last := by
  obtain ⟨moves, followed⟩ := earlier.leads
  obtain ⟨others, onward⟩ := later.leads
  exact ⟨⟨moves ++ others, moves?_append followed onward⟩, later.now.trans earlier.now,
    later.starts.trans earlier.starts⟩

theorem Prepares.of_move (moved : shift.move? mechanism move = some next)
    (now : next.now = shift.now) (starts : next.starts = shift.starts) :
    Prepares mechanism shift next := by
  refine ⟨⟨[move], ?_⟩, now, starts⟩
  simp [moves?, moved]

theorem prepares_removal (shift : Shift σ δ) (ids : List EntryId) :
    ∃ next, Prepares mechanism shift next ∧
      next.engine.timetable.entries =
        shift.engine.timetable.entries.filter fun entry => !ids.contains entry.id := by
  induction ids generalizing shift with
  | nil => exact ⟨shift, .refl shift, by simp⟩
  | cons id ids ih =>
      obtain ⟨next, prepares, entries⟩ := ih { shift with engine := (shift.engine.remove id).2 }
      refine ⟨next, (Prepares.of_move (show shift.move? mechanism (.remove id) = some _ from rfl)
        rfl rfl).trans prepares, ?_⟩
      rw [entries, Engine.remove_timetable]
      simp only [Timetable.remove, List.filter_filter]
      congr 1
      funext entry
      rw [List.contains_cons, Bool.not_or, Bool.and_comm]
      rfl

theorem prepares_whole (sound : shift.engine.timetable.Sound) {entry : Entry σ δ}
    (member : entry ∈ shift.engine.timetable.entries)
    (whole : mechanism.breaks entry.duty = false) :
    ∃ next, Prepares mechanism shift next ∧ entry ∈ next.engine.timetable.entries ∧
      ∀ other ∈ next.engine.timetable.entries, mechanism.breaks other.duty = false := by
  let breaking := (shift.engine.timetable.entries.filter (mechanism.breaks ·.duty)).map Entry.id
  obtain ⟨next, prepares, entries⟩ := prepares_removal shift breaking
  refine ⟨next, prepares, ?_, fun other present => ?_⟩
  · rw [entries, List.mem_filter]
    refine ⟨member, ?_⟩
    simp only [Bool.not_eq_true', List.contains_eq_mem, decide_eq_false_iff_not]
    intro listed
    obtain ⟨broken, listed, same⟩ := List.mem_map.mp listed
    obtain ⟨present, breaks⟩ := List.mem_filter.mp listed
    have found := sound.find?_of_mem present
    rw [same, sound.find?_of_mem member] at found
    cases found
    rw [whole] at breaks
    cases breaks
  · rw [entries, List.mem_filter] at present
    obtain ⟨present, unlisted⟩ := present
    simp only [Bool.not_eq_true', List.contains_eq_mem, decide_eq_false_iff_not] at unlisted
    refine Bool.eq_false_iff.mpr fun breaks => unlisted ?_
    exact List.mem_map.mpr ⟨other, List.mem_filter.mpr ⟨present, breaks⟩, rfl⟩

theorem prepares_step {loop : Loop} {engine : Engine σ δ}
    (attended : shift.engine.Attended loop)
    (stepped : shift.engine.step? mechanism shift.now loop = some (engine, {})) :
    Prepares mechanism shift { shift with engine } := by
  have moved : shift.move? mechanism (.step loop.id) = some { shift with engine } := by
    simp only [move?, attended.find?, bind, Option.bind_some, stepped]
    simp [Pass.startsAt, pure]
  exact .of_move moved rfl rfl

theorem prepares_loop (mechanism : Mechanism σ δ) (shift : Shift σ δ) :
    ∃ next id, Prepares mechanism shift next ∧
    next.engine.timetable = shift.engine.timetable ∧
    next.engine.shutdownPermit = shift.engine.shutdownPermit ∧
    next.engine.changePermit = shift.engine.changePermit ∧
    next.engine.Attended { id, phase := .reckoned shift.engine.timetable.earliest } := by
  obtain ⟨id, fresh, attended⟩ := shift.engine.exists_attended
  have ran : shift.move? mechanism (.run id) =
      some { shift with engine := shift.engine.run id } := by
    simp [move?, fresh]
  refine ⟨_, id, (Prepares.of_move ran rfl rfl).trans (prepares_step attended rfl), rfl, rfl, rfl,
    attended.withLoop _⟩

/-- A loop that is run afterwards uses the permit up that a shutdown has left. -/
theorem prepares_permit (mechanism : Mechanism σ δ) (shift : Shift σ δ) :
    ∃ next, Prepares mechanism shift next ∧
    next.engine.timetable = shift.engine.timetable ∧ next.engine.shutdownPermit = false := by
  by_cases permit : shift.engine.shutdownPermit = true
  · obtain ⟨next, id, prepares, timetable, shutdown, _, attended⟩ :=
      prepares_loop mechanism shift
    have stepped : next.engine.step? mechanism next.now
        { id, phase := .reckoned shift.engine.timetable.earliest } =
          some ({ next.engine with shutdownPermit := false }.halt
            { id, phase := .reckoned shift.engine.timetable.earliest }, {}) := by
      simp [Engine.step?, shutdown, permit]
    exact ⟨_, prepares.trans (prepares_step attended stepped), timetable, rfl⟩
  · exact ⟨shift, .refl shift, rfl, Bool.eq_false_iff.mpr permit⟩

/-- Another loop is about to rest, and no permit keeps it from firing. -/
theorem prepares_ready (mechanism : Mechanism σ δ) (shift : Shift σ δ) :
    ∃ next id, Prepares mechanism shift next ∧
    next.engine.timetable = shift.engine.timetable ∧
    next.engine.shutdownPermit = false ∧ next.engine.changePermit = false ∧
    next.engine.Attended { id, phase := .reckoned shift.engine.timetable.earliest } := by
  obtain ⟨first, begun, timetable, shutdown⟩ := prepares_permit mechanism shift
  obtain ⟨next, id, prepares, same, kept, _, attended⟩ :=
    prepares_loop mechanism first
  rw [timetable] at same attended
  have shutdown := kept.trans shutdown
  by_cases permit : next.engine.changePermit = true
  · have stepped : next.engine.step? mechanism next.now
        { id, phase := .reckoned shift.engine.timetable.earliest } =
          some ({ next.engine with changePermit := false }.withLoop id .reckoning, {}) := by
      simp [Engine.step?, shutdown, permit]
    have unchanged : ({ next.engine with changePermit := false } : Engine σ δ).Attended
        { id, phase := .reckoned shift.engine.timetable.earliest } := attended
    have reckoning := unchanged.withLoop .reckoning
    have again : Prepares mechanism { next with engine := _ } _ := prepares_step reckoning rfl
    refine ⟨_, id, (begun.trans prepares).trans ((prepares_step attended stepped).trans again),
      same, shutdown, rfl, ?_⟩
    exact same ▸ reckoning.withLoop _
  · exact ⟨next, id, begun.trans prepares, same, shutdown, Bool.eq_false_iff.mpr permit, attended⟩

theorem moves?_serve (mechanism : Mechanism σ δ) {loop : Nat} {deadline : Option Wall}
    {later : Wall}
    (attended : shift.engine.Attended { id := loop, phase := .reckoned deadline })
    (shutdown : shift.engine.shutdownPermit = false) (change : shift.engine.changePermit = false)
    (future : shift.now ≤ later) (past : isPast later deadline = true) :
    shift.moves? mechanism [.wait later, .step loop] = some {
      engine := (shift.engine.fire mechanism later loop).1
      now := later
      starts := shift.starts ++ (shift.engine.fire mechanism later loop).2.startsAt later } := by
  have waits : shift.move? mechanism (.wait later) = some { shift with now := later } :=
    if_pos future
  have fires : shift.engine.step? mechanism later { id := loop, phase := .reckoned deadline } =
      some (shift.engine.fire mechanism later loop) := by
    simp [Engine.step?, shutdown, change, past]
  have steps : ({ shift with now := later } : Shift σ δ).move? mechanism (.step loop) = some {
      engine := (shift.engine.fire mechanism later loop).1
      now := later
      starts := shift.starts ++ (shift.engine.fire mechanism later loop).2.startsAt later } := by
    simp only [move?, attended.find?, bind, Option.bind_some, fires]
    rfl
  simp only [moves?, List.foldlM_cons, waits, bind, Option.bind_some, steps]
  rfl

theorem exists_start (sound : shift.engine.timetable.Sound) {entry : Entry σ δ}
    (member : entry ∈ shift.engine.timetable.entries) (live : Timetable.Live mechanism entry) :
    ∃ moves last, shift.moves? mechanism moves = some last ∧ last.starts ≠ shift.starts := by
  obtain ⟨ahead, unbroken⟩ := live
  obtain ⟨moment, ahead⟩ := Option.isSome_iff_exists.mp ahead
  -- What would break the pass is removed, and the permits are used up, before time passes.
  obtain ⟨first, begun, member, whole⟩ := prepares_whole sound member unbroken
  obtain ⟨next, id, ready, timetable, shutdown, change, attended⟩ :=
    prepares_ready mechanism first
  have prepared := begun.trans ready
  obtain ⟨moves, followed⟩ := prepared.leads
  obtain ⟨deadline, reckoned, early⟩ :=
    first.engine.timetable.covered_earliest entry member moment ahead
  let later := max next.now moment
  have due : entry.isDue later = true := by simp [Entry.isDue, ahead, later]
  have past : isPast later first.engine.timetable.earliest = true := by
    simp only [isPast, reckoned, decide_eq_true_eq]
    exact Int.le_trans early (Int.le_max_right ..)
  have started : (later, entry.id) ∈ (next.engine.fire mechanism later id).2.startsAt later := by
    refine fire_unbroken id (fun firing fired => ?_) (timetable ▸ member) due
    obtain ⟨other, listed, rfl⟩ := List.mem_map.mp fired
    exact whole other (timetable ▸ (List.mem_filter.mp listed).1)
  have serves := moves?_serve mechanism attended shutdown change (Int.le_max_left ..) past
  refine ⟨moves ++ [.wait later, .step id], _, moves?_append followed serves, ?_⟩
  rw [← prepared.starts]
  intro same
  rw [List.append_right_eq_self.mp same] at started
  cases started

/-- A stopped engine takes nothing and loses nothing but entries. With no loop left, and none run
again, it starts nothing; but any entry that has a next time, and whose duty does not panic when
it is called, can be started yet, and there is no other way in which something can. -/
theorem starts_again_iff {before : List (Move δ)} {now : Wall}
    (followed : ({ engine := {}, now } : Shift σ δ).moves? mechanism before = some shift)
    (stopped : shift.engine.stopped = true) :
    (∀ after last, shift.moves? mechanism after = some last →
        last.engine.stopped = true ∧
        (∀ now name expression duty,
          last.engine.add mechanism now name expression duty = .error .engineStopped) ∧
        shift.engine.timetable.Dwindles last.engine.timetable) ∧
      (shift.engine.loops = [] → ∀ after last, (∀ loop, .run loop ∉ after) →
        shift.moves? mechanism after = some last → last.starts = shift.starts) ∧
      ((∃ after last, shift.moves? mechanism after = some last ∧ last.starts ≠ shift.starts) ↔
        ∃ entry ∈ shift.engine.timetable.entries, Timetable.Live mechanism entry) := by
  refine ⟨fun after last ran => ?_, fun idle after last unrun ran => moves?_idle ran idle unrun,
    ?_, ?_⟩
  · obtain ⟨still, dwindles⟩ := moves?_stopped ran stopped
    exact ⟨still, Engine.add_of_stopped still mechanism, dwindles⟩
  · rintro ⟨after, last, ran, started⟩
    by_contra spent
    refine started (moves?_spent ran stopped fun entry member live => spent ⟨entry, member, live⟩)
  · rintro ⟨entry, member, live⟩
    have sound : shift.engine.timetable.Sound := by
      apply run_induction ?_ followed Timetable.empty_sound
      rintro move _ earlier later moved sound
      exact (move?_moved moved).sound sound
    exact exists_start sound member live

end Shift

/-! Runs of an engine with one entry, due at every full second. -/

/-- The loop finds the permit of the entry that was added before it, and reckons twice. -/
def engaged : List (Shift.Move Duty) :=
  [.add "tick" "* * * * * *" (.work (.ok .finish)), .run 0, .step 0, .step 0, .step 0, .step 0]

/-- The only loop rests when it is told to end. -/
def concluded : List (Shift.Move Duty) := engaged ++ [.dismiss, .step 0]

/-- Two loops rest when the shutdown comes, and it reaches one of them. -/
def outlived : List (Shift.Move Duty) :=
  engaged ++ [.run 1, .step 1, .step 1, .dismiss, .step 0]

def Shift.ofMoves? (moves : List (Shift.Move Duty)) : Option (Shift Cron.Pattern Duty) :=
  ({ engine := {}, now := 0 } : Shift Cron.Pattern Duty).moves? (Cron.mechanism 0) moves

/-- Engines stop once, but what they hold goes on: with the loop that was not reached, and with
one that is run afterwards. -/
theorem stopped_engine_fires :
    (Shift.ofMoves? outlived).map (fun shift => (shift.engine.stopped, shift.starts)) =
        some (true, []) ∧
      (Shift.ofMoves? (outlived ++ [.wait 1000, .step 1])).map Shift.starts =
        some [(1000, 1)] ∧
      (Shift.ofMoves? concluded).map (fun shift => (shift.engine.stopped, shift.starts)) =
        some (true, []) ∧
      (Shift.ofMoves? (concluded ++ [.run 0, .step 0, .wait 1000, .step 0])).map Shift.starts =
        some [(1000, 1)] := by
  decide +kernel

theorem concluded_rests : ∃ shift, Shift.ofMoves? concluded = some shift ∧
    (∀ after last, (∀ loop, .run loop ∉ after) →
      shift.moves? (Cron.mechanism 0) after = some last → last.starts = shift.starts) ∧
    ∃ after last, shift.moves? (Cron.mechanism 0) after = some last ∧
      last.starts ≠ shift.starts := by
  have evaluated : (Shift.ofMoves? concluded).map (fun shift =>
      (shift.engine.stopped, shift.engine.loops,
        shift.engine.timetable.entries.any fun entry =>
          entry.next.isSome && !entry.duty.breaks)) = some (true, [], true) := by
    decide +kernel
  obtain ⟨shift, followed, same⟩ := Option.map_eq_some_iff.mp evaluated
  simp only [Prod.mk.injEq] at same
  obtain ⟨stopped, idle, left⟩ := same
  obtain ⟨_, rests, again⟩ := Shift.starts_again_iff followed stopped
  refine ⟨shift, followed, rests idle, again.mpr ?_⟩
  obtain ⟨entry, member, live⟩ := List.any_eq_true.mp left
  simp only [Bool.and_eq_true, Bool.not_eq_true'] at live
  exact ⟨entry, member, live⟩

end Rota.Schedule
