import Mathlib.Data.List.TakeWhile
import Rota.Proofs.Run
import Rota.Proofs.Schedule.Vigilance

/-!
Engines by the clock. Entries come and go at any instant, the lone run loop takes its steps, and
time passes only while the loop rests and no further than its deadline. Main statements: what an
act can do to the timetable and to what was started; an entry that is not served starts no more.
-/

namespace Rota.Schedule

variable {σ δ : Type} {mechanism : Mechanism σ δ}

/-- An engine, the clock, and the duties that were started, each with its instant. -/
structure Shift (σ δ : Type) where
  engine : Engine σ δ
  now : Wall
  starts : List (Wall × EntryId) := []

/-- The duties that a pass starts, with its instant. -/
def Pass.startsAt (pass : Pass δ) (now : Wall) : List (Wall × EntryId) :=
  pass.started.map fun firing => (now, firing.id)

namespace Shift

inductive Act (δ : Type) where
  | add (name expression : String) (duty : δ)
  | remove (id : EntryId)
  | dismiss
  /-- The next step of the run loop. -/
  | step
  | wait (later : Wall)

def stepOf? (mechanism : Mechanism σ δ) (shift : Shift σ δ) : Option (Engine σ δ × Pass δ) :=
  shift.engine.loops.findSome? (shift.engine.step? mechanism shift.now)

/-- The clock may go on to an instant that no resting loop wants to be woken before. -/
def canWait (mechanism : Mechanism σ δ) (shift : Shift σ δ) (later : Wall) : Bool :=
  (shift.stepOf? mechanism).isNone && decide (shift.now ≤ later) &&
    shift.engine.nextWake.all fun wake => later ≤ wake

def perform? (mechanism : Mechanism σ δ) (shift : Shift σ δ) : Act δ → Option (Shift σ δ)
  | .add name expression duty =>
    match shift.engine.add mechanism shift.now name expression duty with
    | .ok (_, engine) => some { shift with engine }
    | .error _ => some shift
  | .remove id => some { shift with engine := (shift.engine.remove id).2 }
  | .dismiss => some { shift with engine := shift.engine.dismiss }
  | .step => (shift.stepOf? mechanism).map fun (engine, pass) =>
    { engine, now := shift.now, starts := shift.starts ++ pass.startsAt shift.now }
  | .wait later => if shift.canWait mechanism later then some { shift with now := later } else none

def follow? (mechanism : Mechanism σ δ) (shift : Shift σ δ) (acts : List (Act δ)) :
    Option (Shift σ δ) :=
  acts.foldlM (perform? mechanism) shift

/-- The entry is there, and a loop to fire it. -/
def Serves (shift : Shift σ δ) (id : EntryId) : Prop :=
  shift.engine.loops ≠ [] ∧ ∃ entry, shift.engine.timetable.find? id = some entry

/-- Until when a run serves an entry: until the act that removes it or ends the loop, or until
the run itself stops. -/
inductive ServesUntil (mechanism : Mechanism σ δ) (id : EntryId) (shift last : Shift σ δ) :
    Wall → Prop
  | still {acts} : shift.follow? mechanism acts = some last → last.Serves id →
      ServesUntil mechanism id shift last last.now
  | ceased {before reached act next after} : shift.follow? mechanism before = some reached →
      reached.Serves id → reached.perform? mechanism act = some next → ¬next.Serves id →
      next.follow? mechanism after = some last → ServesUntil mechanism id shift last reached.now

theorem follow?_cons {shift last : Shift σ δ} {act : Act δ} {acts : List (Act δ)} :
    shift.follow? mechanism (act :: acts) = some last ↔
      ∃ next, shift.perform? mechanism act = some next ∧ next.follow? mechanism acts = some last :=
  Option.bind_eq_some_iff

/-- Every run serves an entry until some instant. -/
theorem exists_servesUntil {shift last : Shift σ δ} {id : EntryId} {acts : List (Act δ)}
    (serves : shift.Serves id) (followed : shift.follow? mechanism acts = some last) :
    ∃ closed, ServesUntil mechanism id shift last closed := by
  induction acts generalizing shift with
  | nil =>
      obtain rfl := Option.some.inj followed
      exact ⟨shift.now, .still followed serves⟩
  | cons act acts ih =>
      obtain ⟨next, performed, followed⟩ := follow?_cons.mp followed
      by_cases kept : next.Serves id
      · obtain ⟨closed, serving⟩ := ih kept followed
        cases serving with
        | still ran stays => exact ⟨_, .still (follow?_cons.mpr ⟨next, performed, ran⟩) stays⟩
        | ceased ran stays ends unserved rest =>
            exact ⟨_, .ceased (follow?_cons.mpr ⟨next, performed, ran⟩) stays ends unserved rest⟩
      · have begun : shift.follow? mechanism [] = some shift := rfl
        exact ⟨shift.now, .ceased begun serves performed kept followed⟩

/-- What a pass at an instant starts. -/
structure Starting (timetable : Timetable σ δ) (now : Wall) (fresh : List (Wall × EntryId)) :
    Prop where
  once : fresh.Nodup
  due : ∀ start ∈ fresh, start.1 = now ∧
    ∃ entry ∈ timetable.entries, entry.id = start.2 ∧ entry.isDue now = true

/-- All that an act can do while at most one loop runs. -/
inductive Effect (mechanism : Mechanism σ δ) (shift : Shift σ δ) : Shift σ δ → Prop
  | added {name expression duty id timetable engine} :
      shift.engine.timetable.add mechanism shift.now name expression duty = .ok (id, timetable) →
      engine.timetable = timetable → Effect mechanism shift { shift with engine }
  | removed {id engine} : engine.timetable = (shift.engine.timetable.remove id).2 →
      Effect mechanism shift { shift with engine }
  | turned {engine} : engine.timetable = shift.engine.timetable →
      Effect mechanism shift { shift with engine }
  | fired {engine fresh} :
      engine.timetable = (shift.engine.timetable.fire mechanism shift.now).2 →
      Starting shift.engine.timetable shift.now fresh →
      (engine.loops ≠ [] → ∀ entry ∈ shift.engine.timetable.entries,
        entry.isDue shift.now = true → (shift.now, entry.id) ∈ fresh) →
      Effect mechanism shift { engine, now := shift.now, starts := shift.starts ++ fresh }
  | waited {later} : shift.now ≤ later →
      (shift.engine.loops ≠ [] → ∀ entry ∈ shift.engine.timetable.entries, ∀ next,
        entry.next = some next → later ≤ next) →
      Effect mechanism shift { shift with now := later }

structure Sound (shift : Shift σ δ) : Prop where
  timetable : shift.engine.timetable.Sound
  watched : shift.engine.Watched
  starts : ∀ start ∈ shift.starts,
    start.1 ≤ shift.now ∧ start.2 < shift.engine.timetable.nextId

variable {shift next last : Shift σ δ} {act : Act δ} {id : EntryId}

theorem fire_starting (sound : shift.engine.timetable.Sound) (loop : Nat) :
    Starting shift.engine.timetable shift.now
      ((shift.engine.fire mechanism shift.now loop).2.startsAt shift.now) := by
  have within : ((shift.engine.fire mechanism shift.now loop).2.startsAt shift.now).Sublist
      ((shift.engine.timetable.entries.filter (Entry.isDue shift.now)).map
        fun entry => (shift.now, entry.id)) := by
    have taken := (List.takeWhile_sublist (fun firing : Firing δ => !mechanism.breaks firing.duty)
      (l := (shift.engine.timetable.fire mechanism shift.now).1)).map
        fun firing => (shift.now, firing.id)
    rw [Timetable.fire, List.map_map] at taken
    exact taken
  constructor
  · apply within.nodup
    rw [List.Nodup, List.pairwise_map]
    have ascending := sound.ascending.sublist (List.filter_sublist (p := Entry.isDue shift.now))
    apply ascending.imp
    intro first second below same
    exact Nat.ne_of_lt below (congrArg Prod.snd same)
  · intro start member
    obtain ⟨entry, listed, rfl⟩ := List.mem_map.mp (within.subset member)
    obtain ⟨member, due⟩ := List.mem_filter.mp listed
    exact ⟨rfl, entry, member, rfl, due⟩

/-- A pass that no duty breaks starts every entry that is due. -/
theorem fire_unbroken {engine : Engine σ δ} {now : Wall} (loop : Nat)
    (unbroken : ∀ firing ∈ (engine.timetable.fire mechanism now).1,
      mechanism.breaks firing.duty = false)
    {entry : Entry σ δ} (member : entry ∈ engine.timetable.entries)
    (due : entry.isDue now = true) :
    (now, entry.id) ∈ (engine.fire mechanism now loop).2.startsAt now := by
  have whole : (engine.fire mechanism now loop).2.started =
      (engine.timetable.fire mechanism now).1 :=
    List.takeWhile_eq_self_iff.mpr fun firing fired => by simp [unbroken firing fired]
  rw [Pass.startsAt, whole, Timetable.fire, List.map_map]
  exact List.mem_map.mpr ⟨entry, List.mem_filter.mpr ⟨member, due⟩, rfl⟩

/-- A pass that leaves the loop running starts every entry that is due. -/
theorem fire_whole {loop : Loop} (alone : shift.engine.loops = [loop])
    (running : (shift.engine.fire mechanism shift.now loop.id).1.loops ≠ [])
    {entry : Entry σ δ} (member : entry ∈ shift.engine.timetable.entries)
    (due : entry.isDue shift.now = true) : (shift.now, entry.id) ∈
      (shift.engine.fire mechanism shift.now loop.id).2.startsAt shift.now := by
  rw [Engine.fire_loops alone] at running
  refine fire_unbroken loop.id (fun firing fired => ?_) member due
  refine Bool.eq_false_iff.mpr fun breaks => ?_
  refine absurd ?_ running
  rw [if_pos]
  rw [List.any_eq_true]
  exact ⟨firing, fired, breaks⟩

/-- A loop that cannot go on is woken before any entry is due. -/
theorem canWait_before {loop : Loop} (alone : shift.engine.loops = [loop])
    (vigilant : shift.engine.Vigilant loop) {later : Wall}
    (waits : shift.canWait mechanism later = true) {entry : Entry σ δ}
    (member : entry ∈ shift.engine.timetable.entries) {moment : Wall}
    (ahead : entry.next = some moment) : later ≤ moment := by
  simp only [canWait, stepOf?, alone, Bool.and_eq_true] at waits
  obtain ⟨⟨blocked, _⟩, inTime⟩ := waits
  have blocked : shift.engine.step? mechanism shift.now loop = none := by simpa using blocked
  obtain ⟨deadline, resting, covered⟩ := vigilant.rests blocked
  obtain ⟨wake, rfl, first⟩ := covered entry member moment ahead
  have woken : shift.engine.nextWake = some wake := by
    simp [Engine.nextWake, alone, resting]
  rw [woken] at inTime
  have early : later ≤ wake := by simpa using inTime
  exact Int.le_trans early first

theorem Sound.effect (sound : shift.Sound) (performed : shift.perform? mechanism act = some next) :
    Effect mechanism shift next ∧ next.engine.Watched := by
  have quietly {engine : Engine σ δ} (same : engine.timetable = shift.engine.timetable) :
      Effect mechanism shift { engine, now := shift.now, starts := shift.starts ++ [] } := by
    rw [List.append_nil]
    exact .turned same
  cases act with
  | add name expression duty =>
      simp only [perform?] at performed
      split at performed
      · rename_i id engine added
        cases performed
        obtain ⟨_, timetable, fits, same⟩ := Engine.add_eq_ok_iff.mp added
        refine ⟨.added fits ?_, sound.watched.add added⟩
        rw [same, Engine.rouse_timetable]
      · cases performed
        exact ⟨.turned rfl, sound.watched⟩
  | remove id =>
      cases performed
      exact ⟨.removed (Engine.remove_timetable id _), sound.watched.remove id⟩
  | dismiss =>
      cases performed
      exact ⟨.turned (Engine.dismiss_timetable _), sound.watched.dismiss⟩
  | step =>
      simp only [perform?, stepOf?, Option.map_eq_some_iff] at performed
      obtain ⟨⟨engine, pass⟩, found, rfl⟩ := performed
      cases sound.watched with
      | idle idle => simp [idle] at found
      | going loop alone vigilant =>
          have stepped : shift.engine.step? mechanism shift.now loop = some (engine, pass) := by
            simpa [alone] using found
          have stepped := Engine.step?_stepped stepped
          refine ⟨?_, .step alone vigilant stepped⟩
          cases stepped with
          | fired =>
              apply Effect.fired
              · exact Engine.fire_timetable _ _ _ _
              · exact fire_starting sound.timetable loop.id
              · exact fun running _ member due => fire_whole alone running member due
          | halted timetable => exact quietly ((Engine.halt_timetable _ loop).trans timetable)
          | _ => exact quietly rfl
  | wait later =>
      simp only [perform?, Option.ite_none_right_eq_some] at performed
      obtain ⟨waits, performed⟩ := performed
      cases performed
      refine ⟨.waited ?_ ?_, sound.watched⟩
      · simp only [canWait, Bool.and_eq_true, decide_eq_true_eq] at waits
        exact waits.1.2
      · intro running entry member moment ahead
        cases sound.watched with
        | idle idle => exact absurd idle running
        | going loop alone vigilant => exact canWait_before alone vigilant waits member ahead

/-- After its loop has ended an engine starts nothing more. -/
theorem perform?_over (performed : shift.perform? mechanism act = some next)
    (idle : shift.engine.loops = []) :
    next.engine.loops = [] ∧ next.starts = shift.starts := by
  cases act with
  | add name expression duty =>
      simp only [perform?] at performed
      split at performed
      · rename_i added
        cases performed
        exact ⟨(Engine.add_loops_eq_nil added).mpr idle, rfl⟩
      · cases performed
        exact ⟨idle, rfl⟩
  | remove id =>
      cases performed
      exact ⟨(Engine.remove_loops_eq_nil id).mpr idle, rfl⟩
  | dismiss =>
      cases performed
      exact ⟨Engine.dismiss_loops_eq_nil.mpr idle, rfl⟩
  | step => simp [perform?, stepOf?, idle] at performed
  | wait later =>
      simp only [perform?, Option.ite_none_right_eq_some] at performed
      obtain ⟨_, performed⟩ := performed
      cases performed
      exact ⟨idle, rfl⟩

/-- The clock never goes back, and no id is used again. -/
theorem Effect.later (effect : Effect mechanism shift next) : shift.now ≤ next.now ∧
    shift.engine.timetable.nextId ≤ next.engine.timetable.nextId := by
  cases effect with
  | added added same =>
      obtain ⟨rfl, _, _, _, _, later⟩ := Timetable.add_ok added
      refine ⟨Int.le_refl _, ?_⟩
      rw [same, later]
      exact Nat.le_succ _
  | removed same => exact ⟨Int.le_refl _, by rw [same]; exact Nat.le_refl _⟩
  | turned same => exact ⟨Int.le_refl _, by rw [same]⟩
  | fired same => exact ⟨Int.le_refl _, by rw [same]; exact Nat.le_refl _⟩
  | waited goes => exact ⟨goes, Nat.le_refl _⟩

theorem Effect.started (effect : Effect mechanism shift next) {start : Wall × EntryId}
    (member : start ∈ next.starts) : start ∈ shift.starts ∨ start.1 = shift.now ∧
      ∃ entry ∈ shift.engine.timetable.entries, entry.id = start.2 := by
  cases effect with
  | fired _ starting =>
      rcases List.mem_append.mp member with old | fresh
      · exact .inl old
      · obtain ⟨instant, entry, present, same, _⟩ := starting.due start fresh
        exact .inr ⟨instant, entry, present, same⟩
  | _ => exact .inl member

theorem Sound.perform? (sound : shift.Sound)
    (performed : shift.perform? mechanism act = some next) : next.Sound := by
  obtain ⟨effect, watched⟩ := sound.effect performed
  obtain ⟨goes, issues⟩ := effect.later
  refine ⟨?_, watched, ?_⟩
  · cases effect with
    | added added same => exact same ▸ sound.timetable.add added
    | removed same => exact same ▸ sound.timetable.remove _
    | turned same => exact same ▸ sound.timetable
    | fired same => exact same ▸ sound.timetable.fire mechanism shift.now
    | waited => exact sound.timetable
  · intro start member
    rcases effect.started member with old | ⟨instant, entry, present, same⟩
    · obtain ⟨past, issued⟩ := sound.starts start old
      exact ⟨Int.le_trans past goes, Nat.lt_of_lt_of_le issued issues⟩
    · have issued := sound.timetable.issued entry present
      rw [same] at issued
      exact ⟨instant ▸ goes, Nat.lt_of_lt_of_le issued issues⟩

/-- An entry that is gone has gone for good, and starts no more. -/
theorem Sound.perform?_gone (sound : shift.Sound)
    (performed : shift.perform? mechanism act = some next)
    (issued : id < shift.engine.timetable.nextId)
    (gone : shift.engine.timetable.find? id = none) :
    next.engine.timetable.find? id = none ∧
      ∀ moment, next.starts.count (moment, id) = shift.starts.count (moment, id) := by
  obtain ⟨effect, _⟩ := sound.effect performed
  cases effect with
  | added added same =>
      refine ⟨?_, fun _ => rfl⟩
      have differ : id ≠ _ := Nat.ne_of_lt issued
      rw [← (Timetable.add_ok added).1] at differ
      rw [same, Timetable.find?_add_of_ne added differ]
      exact gone
  | removed same =>
      refine ⟨?_, fun _ => rfl⟩
      rw [same, Timetable.find?_remove]
      split
      · rfl
      · exact gone
  | turned same => exact ⟨by rw [same]; exact gone, fun _ => rfl⟩
  | @fired _ fresh same starting =>
      refine ⟨?_, ?_⟩
      · rw [same, Timetable.find?_fire, gone, Option.map_none]
      · intro moment
        have absent : (moment, id) ∉ fresh := by
          intro started
          obtain ⟨_, entry, present, rfl, _⟩ := starting.due _ started
          rw [sound.timetable.find?_of_mem present] at gone
          cases gone
        rw [List.count_append, List.count_eq_zero_of_not_mem absent, Nat.add_zero]
  | waited => exact ⟨gone, fun _ => rfl⟩

/-- An entry that is no longer served never is again, and nothing starts it. -/
theorem Sound.perform?_unserved (sound : shift.Sound)
    (performed : shift.perform? mechanism act = some next)
    (issued : id < shift.engine.timetable.nextId) (unserved : ¬shift.Serves id) :
    ¬next.Serves id ∧
      ∀ moment, next.starts.count (moment, id) = shift.starts.count (moment, id) := by
  by_cases idle : shift.engine.loops = []
  · obtain ⟨still, kept⟩ := perform?_over performed idle
    exact ⟨fun serves => serves.1 still, fun moment => by rw [kept]⟩
  · have gone : shift.engine.timetable.find? id = none := by
      rw [Option.eq_none_iff_forall_ne_some]
      exact fun entry found => unserved ⟨idle, entry, found⟩
    obtain ⟨absent, kept⟩ := sound.perform?_gone performed issued gone
    refine ⟨?_, kept⟩
    rintro ⟨_, entry, found⟩
    exact absurd (absent.symm.trans found) (by simp)

theorem Sound.follow?_unserved (sound : shift.Sound) {acts : List (Act δ)}
    (followed : shift.follow? mechanism acts = some last)
    (issued : id < shift.engine.timetable.nextId) (unserved : ¬shift.Serves id) :
    ¬last.Serves id ∧
      ∀ moment, last.starts.count (moment, id) = shift.starts.count (moment, id) := by
  have ends : last.Sound ∧ id < last.engine.timetable.nextId ∧ ¬last.Serves id ∧
      ∀ moment, last.starts.count (moment, id) = shift.starts.count (moment, id) := by
    apply run_induction ?_ followed ⟨sound, issued, unserved, fun _ => rfl⟩
    rintro act _ before after performed ⟨sound, issued, unserved, same⟩
    obtain ⟨still, kept⟩ := sound.perform?_unserved performed issued unserved
    have issues := (sound.effect performed).1.later.2
    refine ⟨sound.perform? performed, Nat.lt_of_lt_of_le issued issues, still, ?_⟩
    exact fun moment => (kept moment).trans (same moment)
  exact ends.2.2

/-- An entry goes unserved when it is removed, when the engine stops, or when a due duty panics as
soon as it is called. -/
theorem Sound.ceases (sound : shift.Sound) (performed : shift.perform? mechanism act = some next)
    (serves : shift.Serves id) (unserved : ¬next.Serves id) : act = .remove id ∨
      next.engine.stopped = true ∨ ∃ entry ∈ shift.engine.timetable.entries,
        entry.isDue shift.now = true ∧ mechanism.breaks entry.duty = true := by
  obtain ⟨running, entry, found⟩ := serves
  have stands := Timetable.mem_of_find? found
  cases act with
  | add name expression duty =>
      simp only [Shift.perform?] at performed
      split at performed
      · rename_i added
        cases performed
        have still := mt (Engine.add_loops_eq_nil added).mp running
        obtain ⟨_, timetable, fits, rfl⟩ := Engine.add_eq_ok_iff.mp added
        refine absurd ⟨still, entry, ?_⟩ unserved
        have differ : id ≠ _ := Nat.ne_of_lt (stands.2 ▸ sound.timetable.issued entry stands.1)
        rw [← (Timetable.add_ok fits).1] at differ
        rw [Engine.rouse_timetable, Timetable.find?_add_of_ne fits differ]
        exact found
      · cases performed
        exact absurd ⟨running, entry, found⟩ unserved
  | remove other =>
      cases performed
      left
      have still := mt (Engine.remove_loops_eq_nil other).mp running
      refine Classical.not_not.mp fun differ => unserved ⟨still, entry, ?_⟩
      have apart : id ≠ other := fun same => differ (same ▸ rfl)
      rw [Engine.remove_timetable, Timetable.find?_remove, if_neg apart]
      exact found
  | dismiss =>
      cases performed
      refine absurd ⟨mt Engine.dismiss_loops_eq_nil.mp running, entry, ?_⟩ unserved
      rw [Engine.dismiss_timetable]
      exact found
  | step =>
      right
      simp only [Shift.perform?, stepOf?, Option.map_eq_some_iff] at performed
      obtain ⟨⟨engine, pass⟩, stepping, rfl⟩ := performed
      cases sound.watched with
      | idle idle => exact absurd idle running
      | going loop alone vigilant =>
          have stepped : shift.engine.step? mechanism shift.now loop = some (engine, pass) := by
            simpa [alone] using stepping
          have stays : ∃ later, engine.timetable.find? id = some later := by
            rcases Engine.step?_timetable stepped with same | same
            · exact ⟨entry, by rw [same]; exact found⟩
            · rw [same, Timetable.find?_fire, found]
              exact ⟨_, rfl⟩
          have idle : engine.loops = [] :=
            Classical.not_not.mp fun runs => unserved ⟨runs, stays⟩
          exact (Engine.step?_stepped stepped).ends alone idle
  | wait later =>
      simp only [Shift.perform?, Option.ite_none_right_eq_some] at performed
      obtain ⟨_, performed⟩ := performed
      cases performed
      exact absurd ⟨running, entry, found⟩ unserved

/-- An entry that is removed is served no more, and none is once the loop has ended. -/
theorem unserved_of_removed (performed : shift.perform? mechanism act = some next)
    (closes : act = .remove id ∨ next.engine.loops = []) : ¬next.Serves id := by
  rintro ⟨running, entry, found⟩
  rcases closes with rfl | idle
  · cases performed
    rw [Engine.remove_timetable, Timetable.find?_remove, if_pos rfl] at found
    cases found
  · exact running idle

theorem drain_follow? (mechanism : Mechanism σ δ) (now : Wall) (fuel : Nat)
    (engine : Engine σ δ) (starts : List (Wall × EntryId)) (pass : Pass δ) :
    ∃ steps fresh, ({ engine, now, starts } : Shift σ δ).follow? mechanism
        (List.replicate steps .step) = some
          { engine := (engine.drain mechanism now fuel pass).1, now, starts := starts ++ fresh } ∧
      (engine.drain mechanism now fuel pass).2.startsAt now = pass.startsAt now ++ fresh := by
  induction fuel generalizing engine starts pass with
  | zero => exact ⟨0, [], by simp [follow?, Engine.drain], by simp [Engine.drain]⟩
  | succ fuel ih =>
      simp only [Engine.drain]
      cases stepping : engine.loops.findSome? (engine.step? mechanism now) with
      | none => exact ⟨0, [], by simp [follow?], by simp⟩
      | some stepped =>
          obtain ⟨reached, taken⟩ := stepped
          obtain ⟨steps, fresh, followed, started⟩ := ih reached (starts ++ taken.startsAt now)
            { notices := pass.notices ++ taken.notices, started := pass.started ++ taken.started }
          refine ⟨steps + 1, taken.startsAt now ++ fresh, ?_, ?_⟩
          · rw [List.replicate_succ, follow?_cons]
            refine ⟨_, by simp only [perform?, stepOf?, stepping]; rfl, ?_⟩
            rw [List.append_assoc] at followed
            exact followed
          · simpa [Pass.startsAt] using started

/-- Settling an engine is a run of steps, and starts what they start. -/
theorem settle_follow? (mechanism : Mechanism σ δ) (shift : Shift σ δ) :
    ∃ steps, shift.follow? mechanism (List.replicate steps .step) = some
      { engine := (shift.engine.settle mechanism shift.now).1, now := shift.now
        starts := shift.starts ++
          (shift.engine.settle mechanism shift.now).2.startsAt shift.now } := by
  obtain ⟨steps, fresh, followed, started⟩ := drain_follow? mechanism shift.now
    (8 * shift.engine.loops.length) shift.engine shift.starts {}
  refine ⟨steps, ?_⟩
  rw [Engine.settle, started]
  exact followed

end Shift

end Rota.Schedule
