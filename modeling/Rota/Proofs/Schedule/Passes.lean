import Mathlib.Data.List.Nodup
import Mathlib.Data.List.TakeWhile
import Rota.Proofs.Schedule.Reloading
import Rota.Proofs.Schedule.Vigilance

/-!
Passes at any readings of the clock, which may stand still, leap or go back, by any number of run
loops. Main statement: a pass takes up what is due, each entry once, and leaves it a later time or
none, so that nothing is started twice for the same time.
-/

namespace Rota.Schedule

/-- The search answers with a later instant, if it answers with any. -/
def Mechanism.Forward {σ δ : Type} (mechanism : Mechanism σ δ) : Prop :=
  ∀ schedule now next, mechanism.next schedule now = .ok next → now < next

variable {σ δ : Type} {mechanism : Mechanism σ δ} {now moment : Wall} {id : EntryId}

namespace Timetable

variable {timetable next last : Timetable σ δ} {entry : Entry σ δ}

theorem isDue_iff :
    entry.isDue now = true ↔ ∃ planned, entry.next = some planned ∧ planned ≤ now := by
  rw [Entry.isDue]
  cases entry.next <;> simp

theorem Sound.nextRun_of_mem (sound : timetable.Sound) (member : entry ∈ timetable.entries) :
    timetable.nextRun entry.id = entry.next := by
  rw [nextRun, sound.find?_of_mem member, Option.bind_some]

theorem nextRun_fire : (timetable.fire mechanism now).2.nextRun id =
    (timetable.find? id).bind fun entry =>
      if entry.isDue now then (mechanism.next entry.schedule now).toOption else entry.next := by
  rw [nextRun, find?_fire]
  cases timetable.find? id with
  | none => rfl
  | some entry =>
      simp only [Option.map_some, Option.bind_some]
      split <;> rfl

/-- After a pass all times lie ahead, and none of them comes before the time it replaces. -/
theorem nextRun_fire_some (forward : mechanism.Forward)
    (ahead : (timetable.fire mechanism now).2.nextRun id = some moment) :
    now < moment ∧ ∃ planned, timetable.nextRun id = some planned ∧ planned ≤ moment := by
  rw [nextRun_fire, Option.bind_eq_some_iff] at ahead
  obtain ⟨entry, found, ahead⟩ := ahead
  have stored : timetable.nextRun id = entry.next := by rw [nextRun, found, Option.bind_some]
  rw [stored]
  by_cases due : entry.isDue now = true
  · rw [if_pos due] at ahead
    obtain ⟨planned, same, past⟩ := isDue_iff.mp due
    cases searched : mechanism.next entry.schedule now with
    | error reason => simp [searched, Except.toOption] at ahead
    | ok later =>
        have after := forward _ _ _ searched
        simp only [searched, Except.toOption, Option.some.injEq] at ahead
        subst ahead
        exact ⟨after, planned, same, Int.le_of_lt (Int.lt_of_le_of_lt past after)⟩
  · rw [if_neg due] at ahead
    rw [isDue_iff] at due
    refine ⟨Int.not_le.mp fun past => due ⟨moment, ahead, past⟩, moment, ahead, Int.le_refl _⟩

theorem not_due_after_fire (forward : mechanism.Forward) (sound : timetable.Sound)
    (member : entry ∈ (timetable.fire mechanism now).2.entries) : entry.isDue now = false := by
  have stored := (sound.fire mechanism now).nextRun_of_mem member
  refine Bool.eq_false_iff.mpr fun due => ?_
  obtain ⟨planned, same, past⟩ := isDue_iff.mp due
  exact Int.not_le.mpr (nextRun_fire_some forward (stored.trans same)).1 past

theorem earliest_not_past (idle : ∀ entry ∈ timetable.entries, entry.isDue now = false) :
    isPast now timetable.earliest = false := by
  cases found : timetable.earliest with
  | none => rfl
  | some first =>
      obtain ⟨entry, member, stored⟩ := List.mem_filterMap.mp (List.min?_mem found)
      simpa [Entry.isDue, stored, isPast] using idle entry member

/-- A later timetable, in which what was stored has gone no further back. -/
structure Advances (timetable next : Timetable σ δ) : Prop where
  issued : timetable.nextId ≤ next.nextId
  later : ∀ id < timetable.nextId, ∀ moment, next.nextRun id = some moment →
    ∃ planned, timetable.nextRun id = some planned ∧ planned ≤ moment

theorem Advances.refl (timetable : Timetable σ δ) : timetable.Advances timetable :=
  ⟨Nat.le_refl _, fun _ _ moment ahead => ⟨moment, ahead, Int.le_refl _⟩⟩

theorem Advances.trans (first : timetable.Advances next) (second : next.Advances last) :
    timetable.Advances last := by
  refine ⟨Nat.le_trans first.issued second.issued, fun id old moment ahead => ?_⟩
  obtain ⟨middle, there, below⟩ :=
    second.later id (Nat.lt_of_lt_of_le old first.issued) moment ahead
  obtain ⟨planned, here, before⟩ := first.later id old middle there
  exact ⟨planned, here, Int.le_trans before below⟩

theorem advances_add {name expression : String} {duty : δ}
    (added : timetable.add mechanism now name expression duty = .ok (id, next)) :
    timetable.Advances next := by
  obtain ⟨fresh, _, _, _, _, made⟩ := add_ok added
  refine ⟨by rw [made, fresh]; exact Nat.le_succ _, fun other old moment ahead => ?_⟩
  rw [nextRun, find?_add_of_ne added (fresh ▸ Nat.ne_of_lt old)] at ahead
  exact ⟨moment, ahead, Int.le_refl _⟩

theorem advances_remove : timetable.Advances (timetable.remove id).2 := by
  refine ⟨Nat.le_refl _, fun other _ moment ahead => ?_⟩
  rw [nextRun, find?_remove] at ahead
  split at ahead
  · simp at ahead
  · exact ⟨moment, ahead, Int.le_refl _⟩

theorem advances_fire (forward : mechanism.Forward) :
    timetable.Advances (timetable.fire mechanism now).2 :=
  ⟨Nat.le_refl _, fun _ _ _ ahead => (nextRun_fire_some forward ahead).2⟩

end Timetable

namespace Engine

variable {engine : Engine σ δ} {loop : Nat}

def due (engine : Engine σ δ) (now : Wall) : List (Entry σ δ) :=
  engine.timetable.entries.filter (Entry.isDue now)

theorem due_nodup (sound : engine.timetable.Sound) (now : Wall) :
    ((engine.due now).map Entry.id).Nodup := by
  rw [List.Nodup, List.pairwise_map]
  exact (sound.ascending.sublist List.filter_sublist).imp Nat.ne_of_lt

/-- A pass starts what is due, up to a duty that panics when it is called. -/
theorem fire_started : (engine.fire mechanism now loop).2.started.map Firing.id =
    ((engine.due now).takeWhile fun entry => !mechanism.breaks entry.duty).map Entry.id := by
  simp only [fire, Timetable.fire, List.takeWhile_map, List.map_map]
  rfl

theorem fire_started_all (whole : ∀ entry ∈ engine.due now, mechanism.breaks entry.duty = false) :
    (engine.fire mechanism now loop).2.started.map Firing.id = (engine.due now).map Entry.id := by
  rw [fire_started, List.takeWhile_eq_self_iff.mpr fun entry due => by rw [whole entry due]; rfl]

theorem due_after_fire (forward : mechanism.Forward) (sound : engine.timetable.Sound) :
    (engine.fire mechanism now loop).1.due now = [] := by
  rw [due, fire_timetable, List.filter_eq_nil_iff]
  intro entry member
  rw [Timetable.not_due_after_fire forward sound member]
  exact Bool.false_ne_true

theorem contains_after_fire (sound : engine.timetable.Sound) {entry : Entry σ δ}
    (member : entry ∈ engine.timetable.entries) :
    (engine.fire mechanism now loop).1.timetable.contains entry.id = true := by
  rw [Timetable.contains, fire_timetable, Timetable.find?_fire, sound.find?_of_mem member]
  rfl

theorem started_eq_nil (idle : engine.due now = []) :
    (engine.fire mechanism now loop).2.started = [] := by
  rw [← List.map_eq_nil_iff (f := Firing.id), fire_started, idle]
  rfl

end Engine

/-- A duty that was started, with the time that was stored for it and the reading of the clock. -/
structure Start where
  id : EntryId
  planned : Option Wall
  now : Wall

def Pass.starts (pass : Pass δ) (timetable : Timetable σ δ) (now : Wall) : List Start :=
  pass.started.map fun firing => { id := firing.id, planned := timetable.nextRun firing.id, now }

/-- An engine and what it has started. -/
structure Watch (σ δ : Type) where
  engine : Engine σ δ := {}
  starts : List Start := []

namespace Engine

variable {engine : Engine σ δ} {loop : Nat}

theorem fire_starts (sound : engine.timetable.Sound) {start : Start}
    (member : start ∈ (engine.fire mechanism now loop).2.starts engine.timetable now) :
    start.now = now ∧ start.id < engine.timetable.nextId ∧ ∃ planned,
      start.planned = some planned ∧ planned ≤ now ∧
        engine.timetable.nextRun start.id = some planned := by
  obtain ⟨firing, started, rfl⟩ := List.mem_map.mp member
  have listed : firing.id ∈ (engine.fire mechanism now loop).2.started.map Firing.id :=
    List.mem_map_of_mem started
  rw [fire_started] at listed
  obtain ⟨entry, due, same⟩ := List.mem_map.mp listed
  obtain ⟨present, due⟩ := List.mem_filter.mp ((List.takeWhile_sublist _).subset due)
  obtain ⟨planned, stored, past⟩ := Timetable.isDue_iff.mp due
  have found := (sound.nextRun_of_mem present).trans stored
  rw [same] at found
  exact ⟨rfl, same ▸ sound.issued entry present, planned, found, past, found⟩

theorem starts_nodup (sound : engine.timetable.Sound) :
    (((engine.fire mechanism now loop).2.starts engine.timetable now).map Start.id).Nodup := by
  have ids : ((engine.fire mechanism now loop).2.starts engine.timetable now).map Start.id =
      (engine.fire mechanism now loop).2.started.map Firing.id := by
    rw [Pass.starts, List.map_map]
    rfl
  rw [ids, fire_started]
  exact (due_nodup sound now).sublist ((List.takeWhile_sublist _).map Entry.id)

end Engine

namespace Watch

/-- What may come to an engine, with the readings of the clock. -/
inductive Deed (δ : Type) where
  | add (now : Wall) (name expression : String) (duty : δ)
  | remove (id : EntryId)
  | dismiss
  | run (loop : Nat)
  | step (loop : Nat) (now : Wall)
  /-- A pass of a loop that was woken by another clock than it reads. -/
  | pass (loop : Nat) (now : Wall)

variable (mechanism) in
def perform (watch : Watch σ δ) : Deed δ → Watch σ δ
  | .add now name expression duty =>
    match watch.engine.add mechanism now name expression duty with
    | .ok (_, engine) => { watch with engine }
    | .error _ => watch
  | .remove id => { watch with engine := (watch.engine.remove id).2 }
  | .dismiss => { watch with engine := watch.engine.dismiss }
  | .run loop => { watch with engine := watch.engine.run loop }
  | .step loop now =>
    match (watch.engine.loops.find? (·.id == loop)).bind (watch.engine.step? mechanism now) with
    | some (engine, pass) =>
      { engine, starts := watch.starts ++ pass.starts watch.engine.timetable now }
    | none => watch
  | .pass loop now =>
    let (engine, pass) := watch.engine.fire mechanism now loop
    { engine, starts := watch.starts ++ pass.starts watch.engine.timetable now }

variable (mechanism) in
def after (watch : Watch σ δ) (deeds : List (Deed δ)) : Watch σ δ :=
  deeds.foldl (perform mechanism) watch

/-- What a deed does to the timetable, and what it starts. -/
inductive Performed (mechanism : Mechanism σ δ) (watch : Watch σ δ) : Watch σ δ → Prop
  | kept {engine} : engine.timetable = watch.engine.timetable →
      Performed mechanism watch { watch with engine }
  | added {now name expression duty id timetable engine} :
      watch.engine.timetable.add mechanism now name expression duty = .ok (id, timetable) →
      engine.timetable = timetable → Performed mechanism watch { watch with engine }
  | removed {id engine} : engine.timetable = (watch.engine.timetable.remove id).2 →
      Performed mechanism watch { watch with engine }
  | fired {now loop engine} : engine = (watch.engine.fire mechanism now loop).1 →
      Performed mechanism watch
        { engine, starts := watch.starts ++
          (watch.engine.fire mechanism now loop).2.starts watch.engine.timetable now }

theorem perform_performed (watch : Watch σ δ) (deed : Deed δ) :
    Performed mechanism watch (watch.perform mechanism deed) := by
  cases deed with
  | add now name expression duty =>
      simp only [perform]
      split
      · rename_i id engine added
        obtain ⟨_, timetable, taken, rfl⟩ := Engine.add_eq_ok_iff.mp added
        exact .added taken (Engine.rouse_timetable _)
      · exact .kept rfl
  | remove id => exact .removed (Engine.remove_timetable id watch.engine)
  | dismiss => exact .kept (Engine.dismiss_timetable watch.engine)
  | run loop => exact .kept rfl
  | step loop now =>
      simp only [perform]
      split
      · rename_i engine pass stepped
        obtain ⟨found, _, stepped⟩ := Option.bind_eq_some_iff.mp stepped
        have quiet {engine : Engine σ δ} (same : engine.timetable = watch.engine.timetable) :
            Performed mechanism watch { engine, starts := watch.starts ++ [] } := by
          rw [List.append_nil]
          exact .kept same
        cases Engine.step?_stepped stepped with
        | fired => exact .fired rfl
        | halted same => exact quiet ((Engine.halt_timetable _ found).trans same)
        | _ => exact quiet rfl
      · exact .kept rfl
  | pass loop now => exact .fired rfl

/-- What is on record of an engine whose search goes forward. -/
structure Sound (watch : Watch σ δ) : Prop where
  timetable : watch.engine.timetable.Sound
  issued : ∀ start ∈ watch.starts, start.id < watch.engine.timetable.nextId
  served : ∀ start ∈ watch.starts, ∃ planned, start.planned = some planned ∧ planned ≤ start.now
  ahead : ∀ start ∈ watch.starts, ∀ moment,
    watch.engine.timetable.nextRun start.id = some moment → start.now < moment
  ordered : watch.starts.Pairwise fun start later => start.id = later.id →
    ∃ planned, later.planned = some planned ∧ start.now < planned

theorem start_sound : Sound ({} : Watch σ δ) where
  timetable := Timetable.empty_sound
  issued := by simp
  served := by simp
  ahead := by simp
  ordered := .nil

variable {watch next : Watch σ δ}

theorem Performed.advances (performed : Performed mechanism watch next)
    (forward : mechanism.Forward) : watch.engine.timetable.Advances next.engine.timetable := by
  cases performed with
  | kept same => exact same ▸ .refl _
  | added added same => exact same ▸ Timetable.advances_add added
  | removed same => exact same ▸ Timetable.advances_remove
  | fired same =>
      subst same
      rw [Engine.fire_timetable]
      exact Timetable.advances_fire forward

theorem Performed.timetable (performed : Performed mechanism watch next)
    (sound : watch.engine.timetable.Sound) : next.engine.timetable.Sound := by
  cases performed with
  | kept same => exact same ▸ sound
  | added added same => exact same ▸ sound.add added
  | removed same => exact same ▸ sound.remove _
  | fired same =>
      subst same
      rw [Engine.fire_timetable]
      exact sound.fire mechanism _

/-- What was started before goes on to lie in the past. -/
theorem Sound.advance (sound : watch.Sound) {timetable : Timetable σ δ}
    (advances : watch.engine.timetable.Advances timetable) {start : Start}
    (member : start ∈ watch.starts) : start.id < timetable.nextId ∧
      ∀ moment, timetable.nextRun start.id = some moment → start.now < moment := by
  have old := sound.issued start member
  refine ⟨Nat.lt_of_lt_of_le old advances.issued, fun moment ahead => ?_⟩
  obtain ⟨planned, stored, below⟩ := advances.later start.id old moment ahead
  exact Int.lt_of_lt_of_le (sound.ahead start member planned stored) below

theorem Performed.sound (performed : Performed mechanism watch next) (forward : mechanism.Forward)
    (sound : watch.Sound) : next.Sound := by
  have timetable := performed.timetable sound.timetable
  have advances := performed.advances forward
  have old {start : Start} (member : start ∈ watch.starts) := sound.advance advances member
  cases performed with
  | kept => exact ⟨timetable, fun _ member => (old member).1, sound.served,
      fun _ member => (old member).2, sound.ordered⟩
  | added => exact ⟨timetable, fun _ member => (old member).1, sound.served,
      fun _ member => (old member).2, sound.ordered⟩
  | removed => exact ⟨timetable, fun _ member => (old member).1, sound.served,
      fun _ member => (old member).2, sound.ordered⟩
  | @fired now loop _ same =>
      subst same
      have fresh (start : Start) := @Engine.fire_starts _ _ mechanism now watch.engine loop
        sound.timetable start
      refine ⟨timetable, ?_, ?_, ?_, ?_⟩
      · intro start member
        rcases List.mem_append.mp member with before | new
        · exact (old before).1
        · rw [Engine.fire_timetable]
          exact (fresh start new).2.1
      · intro start member
        rcases List.mem_append.mp member with before | new
        · exact sound.served start before
        · obtain ⟨same, _, planned, stored, past, _⟩ := fresh start new
          exact ⟨planned, stored, same ▸ past⟩
      · intro start member moment ahead
        rcases List.mem_append.mp member with before | new
        · exact (old before).2 moment ahead
        · rw [Engine.fire_timetable] at ahead
          rw [(fresh start new).1]
          exact (Timetable.nextRun_fire_some forward ahead).1
      · refine List.pairwise_append.mpr ⟨sound.ordered, ?_, ?_⟩
        -- Within one pass every entry is started once, so there is nothing to compare.
        · have apart := @Engine.starts_nodup _ _ mechanism now watch.engine loop sound.timetable
          rw [List.Nodup, List.pairwise_map] at apart
          exact apart.imp fun differ same => absurd same differ
        · intro start before later new same
          obtain ⟨_, _, planned, stored, _, found⟩ := fresh later new
          exact ⟨planned, stored, sound.ahead start before planned (same ▸ found)⟩

theorem sound_after (forward : mechanism.Forward) (deeds : List (Deed δ)) (sound : watch.Sound) :
    (watch.after mechanism deeds).Sound := by
  induction deeds generalizing watch with
  | nil => exact sound
  | cons deed deeds ih => exact ih ((perform_performed watch deed).sound forward sound)

theorem Sound.starts_distinct (sound : watch.Sound) :
    (watch.starts.map fun start => (start.id, start.planned)).Nodup := by
  rw [List.Nodup, List.pairwise_map]
  refine sound.ordered.imp_of_mem fun {start later} before _ ordered same => ?_
  obtain ⟨planned, stored, past⟩ := sound.served start before
  obtain ⟨id, again⟩ := Prod.mk.inj same
  -- The first start came no sooner than its time, and the time of the next lies beyond it.
  obtain ⟨next, planned', after⟩ := ordered id
  rw [stored, planned', Option.some.injEq] at again
  exact Int.not_lt.mpr past (again ▸ after)

theorem advances_after (forward : mechanism.Forward) (watch : Watch σ δ) (deeds : List (Deed δ)) :
    watch.engine.timetable.Advances (watch.after mechanism deeds).engine.timetable := by
  induction deeds generalizing watch with
  | nil => exact .refl _
  | cons deed deeds ih => exact ((perform_performed watch deed).advances forward).trans (ih _)

end Watch

/-- A pass at any reading of the clock starts the entries that are due, each of them once and up to
one whose duty panics when it is called, and leaves all that were due a later time or none. So
nothing is due once more at the same reading; what is stored for an entry only grows, from each
start to the next beyond the reading of the clock, and no entry starts twice for the same time. -/
theorem no_occurrence_starts_twice (forward : mechanism.Forward)
    (deeds later : List (Watch.Deed δ)) :
    let watch := ({} : Watch σ δ).after mechanism deeds
    let last := watch.after mechanism later
    (∀ now loop,
      let due := watch.engine.due now
      let fired := watch.engine.fire mechanism now loop
      (∀ entry, entry ∈ due ↔ entry ∈ watch.engine.timetable.entries ∧
        ∃ planned, entry.next = some planned ∧ planned ≤ now) ∧
      (due.map Entry.id).Nodup ∧
      fired.2.started.map Firing.id =
        (due.takeWhile fun entry => !mechanism.breaks entry.duty).map Entry.id ∧
      ((∀ entry ∈ due, mechanism.breaks entry.duty = false) →
        fired.2.started.map Firing.id = due.map Entry.id) ∧
      (∀ entry ∈ watch.engine.timetable.entries, entry ∉ due →
        fired.1.timetable.nextRun entry.id = entry.next) ∧
      (∀ entry ∈ due, fired.1.timetable.contains entry.id = true ∧
        ∀ moment, fired.1.timetable.nextRun entry.id = some moment → now < moment) ∧
      fired.1.due now = [] ∧ isPast now fired.1.timetable.earliest = false ∧
      ∀ other, (fired.1.fire mechanism now other).2.started = []) ∧
    (∀ id < watch.engine.timetable.nextId, ∀ moment,
      last.engine.timetable.nextRun id = some moment →
        ∃ planned, watch.engine.timetable.nextRun id = some planned ∧ planned ≤ moment) ∧
    (∀ start ∈ last.starts, (∃ planned, start.planned = some planned ∧ planned ≤ start.now) ∧
      ∀ moment, last.engine.timetable.nextRun start.id = some moment → start.now < moment) ∧
    last.starts.Pairwise (fun start next => start.id = next.id →
      ∃ planned, next.planned = some planned ∧ start.now < planned) ∧
    (last.starts.map fun start => (start.id, start.planned)).Nodup := by
  intro watch last
  have sound : watch.Sound := Watch.sound_after forward deeds Watch.start_sound
  have ended : last.Sound := Watch.sound_after forward later sound
  refine ⟨fun now loop => ?_, (Watch.advances_after forward watch later).later,
    fun start member => ⟨ended.served start member, ended.ahead start member⟩, ended.ordered,
    ended.starts_distinct⟩
  have stored {entry : Entry σ δ} (member : entry ∈ watch.engine.timetable.entries) :
      (watch.engine.fire mechanism now loop).1.timetable.nextRun entry.id =
        if entry.isDue now then (mechanism.next entry.schedule now).toOption else entry.next := by
    rw [Engine.fire_timetable, Timetable.nextRun_fire, sound.timetable.find?_of_mem member,
      Option.bind_some]
  have idle : (watch.engine.fire mechanism now loop).1.due now = [] :=
    Engine.due_after_fire forward sound.timetable
  refine ⟨fun entry => ?_, Engine.due_nodup sound.timetable now, Engine.fire_started,
    Engine.fire_started_all, fun entry member waits => ?_,
    fun entry due => ⟨Engine.contains_after_fire sound.timetable (List.mem_filter.mp due).1,
      fun moment ahead => ?_⟩, idle, ?_, fun other => Engine.started_eq_nil idle⟩
  · exact List.mem_filter.trans (and_congr_right' Timetable.isDue_iff)
  · rw [stored member, if_neg fun due => waits (List.mem_filter.mpr ⟨member, due⟩)]
  · rw [Engine.fire_timetable] at ahead
    exact (Timetable.nextRun_fire_some forward ahead).1
  · refine Timetable.earliest_not_past fun entry member => ?_
    rw [Engine.fire_timetable] at member
    exact Timetable.not_due_after_fire forward sound.timetable member

theorem everySecond_forward : everySecond.Forward := by
  rintro _ now _ ⟨⟩
  have later (moment : Int) : moment < moment / 1000 * 1000 + 1000 := by omega
  exact later now

/-- A loop rests until the time of its entry has come, at 1000. -/
def dozing : List (Watch.Deed Duty) :=
  [.run 1, .add 0 "sweep" "* * * * * *" (.task sweep), .step 1 0, .step 1 0, .step 1 0, .step 1 0]

/-- It is woken late, and then the clock goes back under a second loop. -/
def setback : List (Watch.Deed Duty) :=
  [.step 1 5500, .run 2, .pass 2 3000, .pass 1 5500, .pass 2 6000]

theorem late_pass_starts_once : everySecond.Forward ∧
    let watch := ({} : Watch Unit Duty).after everySecond dozing
    let last := watch.after everySecond setback
    (watch.engine.due 5500).map Entry.id = [1] ∧
    (watch.engine.fire everySecond 5500 1).1.due 5500 = [] ∧
    (last.starts.map fun start => (start.id, start.planned)) = [(1, some 1000), (1, some 6000)] ∧
    (last.starts.map fun start => (start.id, start.planned)).Nodup := by
  have ⟨passes, _, _, _, distinct⟩ :=
    no_occurrence_starts_twice everySecond_forward dozing setback
  have ⟨_, _, _, _, _, _, idle, _⟩ := passes 5500 1
  exact ⟨everySecond_forward, by decide +kernel, idle, by decide +kernel, distinct⟩

end Rota.Schedule
