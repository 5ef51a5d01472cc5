import Mathlib.Data.List.TakeWhile
import Rota.Proofs.Run
import Rota.Proofs.Schedule.Reloading
import Rota.Proofs.Schedule.Vigilance

/-!
The run loop amid calls that are taken apart. A call changes the timetable first and tells the
loop afterwards, and between the two come other calls and the loop's own steps. Main statement: a
loop that rests has been told of a change, or a call under way has still to tell it, or no entry
is due before its deadline.
-/

namespace Rota.Schedule

variable {σ δ : Type} {mechanism : Mechanism σ δ}

namespace Timetable

variable {timetable : Timetable σ δ}

/-- Puts an entry where its id belongs. Entries may come in another order than they were
numbered in. -/
def insert (timetable : Timetable σ δ) (entry : Entry σ δ) : Timetable σ δ :=
  { timetable with entries :=
      timetable.entries.takeWhile (·.id < entry.id) ++
        entry :: timetable.entries.dropWhile (·.id < entry.id) }

theorem insert_entries_of_last (entry : Entry σ δ)
    (last : ∀ other ∈ timetable.entries, other.id < entry.id) :
    (timetable.insert entry).entries = timetable.entries ++ [entry] := by
  have all : ∀ other ∈ timetable.entries, decide (other.id < entry.id) = true :=
    fun other member => decide_eq_true (last other member)
  rw [insert, List.takeWhile_eq_self_iff.mpr all, List.dropWhile_eq_nil_iff.mpr all]

theorem Covered.next_eq_none {entry : Entry σ δ} (covered : timetable.Covered none)
    (member : entry ∈ timetable.entries) : entry.next = none := by
  cases ahead : entry.next with
  | none => rfl
  | some next =>
      obtain ⟨moment, absent, _⟩ := covered entry member next ahead
      cases absent

end Timetable

/-- Where a call stands that changes the timetable. -/
inductive Errand (σ δ : Type) where
  /-- The entry is accepted and has its number. -/
  | inserting (entry : Entry σ δ)
  /-- The timetable is changed, and the loop has still to be told. -/
  | telling

/-- An engine with the calls that are under way on it. -/
structure Bustle (σ δ : Type) where
  engine : Engine σ δ := {}
  errands : List (Errand σ δ) := []

namespace Bustle

inductive Move (δ : Type) where
  | add (now : Wall) (name expression : String) (duty : δ)
  | remove (id : EntryId)
  /-- The next step of a call. -/
  | proceed (errand : Nat)
  | dismiss
  | run (loop : Nat)
  /-- The next step of the run loop. -/
  | step (now : Wall)

def perform? (mechanism : Mechanism σ δ) (bustle : Bustle σ δ) : Move δ → Option (Bustle σ δ)
  | .add now name expression duty =>
    if bustle.engine.stopped then some bustle
    else match Timetable.plan mechanism now expression with
      | .error _ => some bustle
      | .ok (schedule, next) =>
        let timetable := bustle.engine.timetable
        let entry := { id := timetable.nextId, name, schedule, next := some next, duty }
        some {
          engine := { bustle.engine with timetable :=
            { timetable with nextId := timetable.nextId + 1 } }
          errands := bustle.errands ++ [.inserting entry] }
  | .remove id =>
    let (present, timetable) := bustle.engine.timetable.remove id
    some {
      engine := { bustle.engine with timetable }
      errands := if present then bustle.errands ++ [.telling] else bustle.errands }
  | .proceed place =>
    match bustle.errands[place]? with
    | none => none
    | some (.inserting entry) =>
      some {
        engine := { bustle.engine with timetable := bustle.engine.timetable.insert entry }
        errands := bustle.errands.set place .telling }
    | some .telling =>
      some { engine := bustle.engine.rouse, errands := bustle.errands.eraseIdx place }
  | .dismiss => some { bustle with engine := bustle.engine.dismiss }
  | .run loop =>
    if bustle.engine.loops.isEmpty then some { bustle with engine := bustle.engine.run loop }
    else none
  | .step now =>
    (bustle.engine.loops.findSome? (bustle.engine.step? mechanism now)).map fun (engine, _) =>
      { bustle with engine }

def follow? (mechanism : Mechanism σ δ) (bustle : Bustle σ δ) (moves : List (Move δ)) :
    Option (Bustle σ δ) :=
  moves.foldlM (perform? mechanism) bustle

variable {bustle next : Bustle σ δ} {engine : Engine σ δ} {errands : List (Errand σ δ)}

/-! Calls that nothing comes between are the operations of the engine. -/

theorem eraseIdx_concat_length (errand : Errand σ δ) :
    (errands ++ [errand]).eraseIdx errands.length = errands := by
  simp [List.eraseIdx_append_of_length_le]

theorem add_uninterrupted (sound : engine.timetable.Sound) {now : Wall} {name expression : String}
    {duty : δ} {id : EntryId} {added : Engine σ δ}
    (adds : engine.add mechanism now name expression duty = .ok (id, added)) :
    ({ engine, errands } : Bustle σ δ).follow? mechanism
        [.add now name expression duty, .proceed errands.length, .proceed errands.length] =
      some { engine := added, errands } := by
  obtain ⟨running, timetable, taken, rfl⟩ := Engine.add_eq_ok_iff.mp adds
  cases planned : Timetable.plan mechanism now expression with
  | error reason => simp [Timetable.add, planned, bind, Except.bind] at taken
  | ok found =>
      simp only [Timetable.add, planned, bind, Except.bind, pure, Except.pure, Except.ok.injEq,
        Prod.mk.injEq] at taken
      obtain ⟨rfl, rfl⟩ := taken
      have last := Timetable.insert_entries_of_last
        { id := engine.timetable.nextId, name, schedule := found.1, next := some found.2, duty }
        sound.issued
      simp only [Timetable.insert] at last
      simp [follow?, perform?, running, planned, Timetable.insert, last, eraseIdx_concat_length]

theorem remove_uninterrupted {id : EntryId} (present : engine.timetable.contains id = true) :
    ({ engine, errands } : Bustle σ δ).follow? mechanism
        [.remove id, .proceed errands.length] =
      some { engine := (engine.remove id).2, errands } := by
  simp [follow?, perform?, Engine.remove, Timetable.remove, present, eraseIdx_concat_length]

/-! What the loop has been told. -/

/-- The loop is about to reckon, or knows of every change that it will not be told of. -/
def Attentive (bustle : Bustle σ δ) (loop : Loop) : Prop :=
  match loop.phase with
  | .reckoning => True
  | .reckoned deadline => bustle.engine.changePermit = true ∨ .telling ∈ bustle.errands ∨
      bustle.engine.timetable.Covered deadline
  | .resting deadline => loop.roused = true ∨ .telling ∈ bustle.errands ∨
      bustle.engine.timetable.Covered deadline

inductive Alert (bustle : Bustle σ δ) : Prop
  | idle : bustle.engine.loops = [] → Alert bustle
  | going (sole : Loop) : bustle.engine.loops = [sole] → bustle.Attentive sole → Alert bustle

theorem Alert.lone (alert : bustle.Alert) :
    bustle.engine.loops = [] ∨ ∃ loop, bustle.engine.loops = [loop] := by
  cases alert with
  | idle idle => exact .inl idle
  | going loop alone => exact .inr ⟨loop, alone⟩

theorem alert_of_telling (lone : bustle.engine.loops = [] ∨ ∃ loop, bustle.engine.loops = [loop])
    (telling : .telling ∈ bustle.errands) : bustle.Alert := by
  rcases lone with idle | ⟨loop, alone⟩
  · exact .idle idle
  · refine .going loop alone ?_
    unfold Attentive
    split
    · trivial
    · exact .inr (.inl telling)
    · exact .inr (.inl telling)

/-- Whoever tells the loop leaves nothing that it does not know of. -/
theorem alert_rouse (errands : List (Errand σ δ))
    (lone : engine.loops = [] ∨ ∃ loop, engine.loops = [loop]) :
    Alert { engine := engine.rouse, errands } := by
  rcases lone with idle | ⟨loop, alone⟩
  · exact .idle (Engine.rouse_loops_eq_nil.mpr idle)
  · by_cases wakes : (loop.isResting && !loop.roused) = true
    · refine .going { loop with roused := true } ?_ ?_
      · simp [Engine.rouse, alone, markFirst, wakes]
      · unfold Attentive
        cases phase : loop.phase with
        | reckoning => trivial
        | reckoned deadline => simp [Loop.isResting, phase] at wakes
        | resting deadline => exact .inl rfl
    · -- Nobody rests who has not been told, so a permit is left for the next look at it.
      have permit : engine.rouse = { engine with changePermit := true } := by
        simp [Engine.rouse, alone, markFirst, wakes]
      refine .going loop (by rw [permit]; exact alone) ?_
      rw [permit]
      unfold Attentive
      cases phase : loop.phase with
      | reckoning => trivial
      | reckoned deadline => exact .inl rfl
      | resting deadline =>
          left
          simpa [Loop.isResting, phase] using wakes

/-- A call that has changed nothing yet, or that has only taken entries away, misleads no loop. -/
theorem Alert.fewer (alert : bustle.Alert) {timetable : Timetable σ δ}
    (fewer : ∀ entry ∈ timetable.entries, entry ∈ bustle.engine.timetable.entries)
    (kept : ∀ errand ∈ bustle.errands, errand ∈ errands) :
    Alert { engine := { bustle.engine with timetable }, errands } := by
  have covered {deadline : Option Wall} (before : bustle.engine.timetable.Covered deadline) :
      timetable.Covered deadline := fun entry member => before entry (fewer entry member)
  cases alert with
  | idle idle => exact .idle idle
  | going loop alone attentive =>
      refine .going loop alone ?_
      unfold Attentive at attentive ⊢
      cases phase : loop.phase with
      | reckoning => trivial
      | reckoned deadline =>
          simp only [phase] at attentive ⊢
          exact attentive.imp_right (.imp (kept _) covered)
      | resting deadline =>
          simp only [phase] at attentive ⊢
          exact attentive.imp_right (.imp (kept _) covered)

theorem Alert.dismiss (alert : bustle.Alert) :
    Alert { bustle with engine := bustle.engine.dismiss } := by
  cases alert with
  | idle idle => exact .idle (Engine.dismiss_loops_eq_nil.mpr idle)
  | going loop alone attentive =>
      by_cases ends : (loop.isResting && !loop.dismissed) = true
      · have marked : bustle.engine.dismiss =
            { bustle.engine with loops := [{ loop with dismissed := true }] } := by
          simp [Engine.dismiss, alone, markFirst, ends]
        refine .going { loop with dismissed := true } (by rw [marked]) ?_
        rw [marked]
        exact attentive
      · have permit : bustle.engine.dismiss = { bustle.engine with shutdownPermit := true } := by
          simp [Engine.dismiss, alone, markFirst, ends]
        refine .going loop (by rw [permit]; exact alone) ?_
        rw [permit]
        exact attentive

theorem Alert.stepped {loop : Loop} {pass : Pass δ} {now : Wall}
    (alone : bustle.engine.loops = [loop]) (attentive : bustle.Attentive loop)
    (stepped : bustle.engine.Stepped mechanism now loop engine pass) :
    Alert { bustle with engine } := by
  cases stepped with
  | reckoned =>
      refine .going _ (Engine.withLoop_loops alone _) ?_
      exact .inr (.inr bustle.engine.timetable.covered_earliest)
  | halted _ loops => exact .idle (Engine.halt_loops (loops.trans alone))
  | changed =>
      have same : { bustle.engine with changePermit := false }.loops = [loop] := alone
      exact .going _ (Engine.withLoop_loops same _) trivial
  | woken => exact .going _ (Engine.withLoop_loops alone _) trivial
  | fired =>
      have loops : (bustle.engine.fire mechanism now loop.id).1.loops = _ := Engine.fire_loops alone
      split at loops
      · exact .idle loops
      · exact .going _ loops trivial
  | @rested deadline reckoned unchanged =>
      -- What comes between the reckoning and the rest leaves the permit that is looked for here.
      have known : .telling ∈ bustle.errands ∨ bustle.engine.timetable.Covered deadline := by
        unfold Attentive at attentive
        simpa [reckoned, unchanged] using attentive
      refine .going { id := loop.id, phase := .resting deadline } ?_ (.inr known)
      simp [Engine.rest, Engine.withoutLoop, alone]

theorem Alert.perform? (alert : bustle.Alert) {move : Move δ}
    (performed : bustle.perform? mechanism move = some next) : next.Alert := by
  cases move with
  | add now name expression duty =>
      simp only [Bustle.perform?] at performed
      split at performed
      · cases performed
        exact alert
      · split at performed
        · cases performed
          exact alert
        · cases performed
          exact alert.fewer (fun _ member => member) fun _ => List.mem_append_left _
  | remove id =>
      cases performed
      refine alert.fewer (fun _ member => (List.mem_filter.mp member).1) ?_
      intro errand member
      split
      · exact List.mem_append_left _ member
      · exact member
  | proceed place =>
      simp only [Bustle.perform?] at performed
      split at performed
      · simp at performed
      · rename_i entry standing
        cases performed
        refine alert_of_telling alert.lone ?_
        have bound := (List.getElem?_eq_some_iff.mp standing).1
        exact List.mem_of_getElem? (by rw [List.getElem?_set_self bound])
      · cases performed
        exact alert_rouse _ alert.lone
  | dismiss =>
      cases performed
      exact alert.dismiss
  | run loop =>
      simp only [Bustle.perform?, Option.ite_none_right_eq_some] at performed
      obtain ⟨idle, performed⟩ := performed
      cases performed
      refine .going { id := loop } ?_ trivial
      simp [Engine.run, List.isEmpty_iff.mp idle]
  | step now =>
      simp only [Bustle.perform?, Option.map_eq_some_iff] at performed
      obtain ⟨⟨engine, pass⟩, found, rfl⟩ := performed
      cases alert with
      | idle idle => simp [idle] at found
      | going loop alone attentive =>
          have stepped : bustle.engine.step? mechanism now loop = some (engine, pass) := by
            simpa [alone] using found
          exact .stepped alone attentive (Engine.step?_stepped stepped)

theorem alert_of_follow? {moves : List (Move δ)} {last : Bustle σ δ}
    (followed : ({} : Bustle σ δ).follow? mechanism moves = some last) : last.Alert :=
  run_induction (fun _ _ _ _ performed alert => alert.perform? performed) followed (.idle rfl)

/-- However the steps of calls and of the loop are interleaved, a loop rests only with a change
that it has been told of, or with a call under way that is about to tell it, or on a deadline that
no entry comes before. -/
theorem never_oversleeps {moves : List (Move δ)} {last : Bustle σ δ}
    (followed : ({} : Bustle σ δ).follow? mechanism moves = some last) {loop : Loop}
    {deadline : Option Wall} (runs : loop ∈ last.engine.loops)
    (rests : loop.phase = .resting deadline) :
    loop.roused = true ∨ .telling ∈ last.errands ∨
      (∀ entry ∈ last.engine.timetable.entries, ∀ next, entry.next = some next →
        ∃ moment, deadline = some moment ∧ moment ≤ next) ∧
      (deadline = none → ∀ entry ∈ last.engine.timetable.entries, entry.next = none) := by
  cases alert_of_follow? followed with
  | idle idle => simp [idle] at runs
  | going sole alone attentive =>
      rw [alone, List.mem_singleton] at runs
      subst runs
      simp only [Attentive, rests] at attentive
      refine attentive.imp_right (.imp_right fun covered => ⟨covered, ?_⟩)
      rintro rfl entry member
      exact Timetable.Covered.next_eq_none covered member

/-- An entry comes between the reckoning and the rest, from a call that then says nothing. -/
def slipIn : List (Move Duty) :=
  [.run 0, .add 0 "sweep" "* * * * * *" (.task sweep), .step 0, .proceed 0, .step 0]

theorem slip_in_still_told :
    ∃ last loop, ({} : Bustle Unit Duty).follow? everySecond slipIn = some last ∧
      loop ∈ last.engine.loops ∧ loop.phase = .resting none ∧ loop.roused = false ∧
      last.engine.timetable.nextRun 1 = some 1000 ∧ .telling ∈ last.errands := by
  refine ⟨_, { id := 0, phase := .resting none }, rfl, List.mem_cons_self, rfl, rfl, rfl, ?_⟩
  have followed : ({} : Bustle Unit Duty).follow? everySecond slipIn = some _ := rfl
  have rests : ({ id := 0, phase := .resting none } : Loop).phase = .resting none := rfl
  have known := never_oversleeps followed List.mem_cons_self rests
  rcases known with roused | telling | ⟨covered, _⟩
  · cases roused
  · exact telling
  · obtain ⟨moment, absent, _⟩ := covered _ List.mem_cons_self 1000 rfl
    cases absent

end Bustle

end Rota.Schedule
