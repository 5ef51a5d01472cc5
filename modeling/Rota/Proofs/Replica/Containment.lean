import Rota.Proofs.Replica.Supervision
import Rota.Proofs.Schedule.Dismissal
import Rota.Proofs.Schedule.Passes
import Rota.Proofs.Schedule.Promptness

/-!
Jobs of an engine that misbehave. Main statement: whatever becomes of the jobs once they are under
way, the run loop goes on and starts all that is due; only a job that panics when it is called takes
the loop down, and with it the jobs behind it.
-/

namespace Rota

open Rota.Schedule Rota.Task

namespace Schedule.Engine

variable {σ δ : Type} {mechanism : Mechanism σ δ} {now : Wall} {engine next : Engine σ δ}
  {loop : Loop}

theorem Touches.watched {known : Definition → Prop} {engine next : Engine σ Duty}
    (touches : engine.Touches known next) (watched : engine.Watched) : next.Watched :=
  touches.keeps Watched (fun _ taken watched => watched.add taken)
    (fun number watched => watched.remove number) watched

theorem Touches.running {known : Definition → Prop} {engine next : Engine σ Duty}
    (touches : engine.Touches known next) (running : engine.loops ≠ []) : next.loops ≠ [] :=
  touches.keeps_roused (fun later => later.loops ≠ []) (fun _ _ running => running)
    (fun _ running => mt rouse_loops_eq_nil.mp running) running

/-- No job that is due panics when it is called. -/
def Unbroken (mechanism : Mechanism σ δ) (now : Wall) (engine : Engine σ δ) : Prop :=
  ∀ entry ∈ engine.due now, mechanism.breaks entry.duty = false

theorem unbroken_iff : engine.Unbroken mechanism now ↔
    ∀ firing ∈ (engine.timetable.fire mechanism now).1, mechanism.breaks firing.duty = false := by
  simp only [Unbroken, due, Timetable.fire, List.forall_mem_map]
  rfl

/-- A pass leaves its loop running exactly if no job takes it down. -/
theorem fire_running_iff (alone : engine.loops = [loop]) :
    (engine.fire mechanism now loop.id).1.loops ≠ [] ↔ engine.Unbroken mechanism now := by
  rw [fire_loops alone, unbroken_iff]
  split
  · rename_i broken
    obtain ⟨firing, fired, breaks⟩ := List.any_eq_true.mp broken
    refine iff_of_false (by simp) fun unbroken => ?_
    exact absurd ((unbroken firing fired).symm.trans breaks) (by simp)
  · rename_i unbroken
    refine iff_of_true (by simp) fun firing fired => ?_
    refine Bool.eq_false_iff.mpr fun breaks => unbroken ?_
    rw [List.any_eq_true]
    exact ⟨firing, fired, breaks⟩

/-- A pass starts all that is due exactly if no job takes its loop down. -/
theorem fire_started_iff {loop : Nat} :
    (engine.fire mechanism now loop).2.started.map Firing.id = (engine.due now).map Entry.id ↔
      engine.Unbroken mechanism now := by
  constructor
  · intro whole
    rw [fire_started] at whole
    have lengths := congrArg List.length whole
    rw [List.length_map, List.length_map] at lengths
    have part := List.takeWhile_prefix (fun entry : Entry σ δ => !mechanism.breaks entry.duty)
      (l := engine.due now)
    have same := part.eq_of_length lengths
    exact fun entry due => by simpa using List.takeWhile_eq_self_iff.mp same entry due
  · exact fire_started_all

theorem fire_stopped (loop : Nat) :
    (engine.fire mechanism now loop).1.stopped = engine.stopped := by
  simp only [fire]
  split <;> rfl

end Schedule.Engine

namespace Workday

variable {workday next : Workday} {doing : Doing}

/-- One loop runs at most, and nothing has slipped by it. -/
structure Manned (workday : Workday) : Prop where
  timetable : workday.replica.engine.timetable.Sound
  crew : workday.replica.crew.Sound
  watched : workday.replica.engine.Watched

def due (workday : Workday) : List (Entry Cron.Pattern Duty) :=
  workday.replica.engine.due workday.replica.wall

def Unbroken (workday : Workday) : Prop :=
  workday.replica.engine.Unbroken workday.replica.mechanism workday.replica.wall

theorem Wrought.manned (wrought : workday.Wrought doing next) (unrun : ∀ loop, doing ≠ .run loop)
    (manned : workday.Manned) : next.Manned := by
  refine ⟨wrought.sound manned.timetable, wrought.crew manned.crew, ?_⟩
  have watched := manned.watched
  cases wrought with
  | stepped found stepped =>
      cases watched with
      | idle idle => simp [idle] at found
      | going sole alone vigilant =>
          obtain rfl := Engine.sole_eq alone found
          exact .step alone vigilant (Engine.step?_stepped stepped)
  | began _ deals => exact deals.roster.engine.watched watched
  | dealt _ _ deals => exact deals.roster.engine.watched watched
  | woken _ _ _ touches => exact touches.watched watched
  | ran => exact absurd rfl (unrun _)
  | dismissed => exact watched.dismiss
  | _ => exact watched

/-- The loop ends with the engine, or in a pass with a job that panics when it is called. -/
theorem Wrought.running (wrought : workday.Wrought doing next) (manned : workday.Manned)
    (running : workday.replica.engine.loops ≠ []) : next.replica.engine.loops ≠ [] ∨
      (∃ place, doing = .step place) ∧
        (next.replica.engine.stopped = true ∨ ¬workday.Unbroken) := by
  cases wrought with
  | @stepped place _ engine pass found stepped =>
      by_cases goesOn : engine.loops = []
      · right
        cases manned.watched with
        | idle idle => exact absurd idle running
        | going sole alone =>
            obtain rfl := Engine.sole_eq alone found
            refine ⟨⟨place, rfl⟩, ((Engine.step?_stepped stepped).ends alone goesOn).imp_right ?_⟩
            rintro ⟨entry, member, due, breaks⟩ unbroken
            have whole := unbroken entry (List.mem_filter.mpr ⟨member, due⟩)
            exact absurd (whole.symm.trans breaks) (by simp)
      · exact .inl goesOn
  | began _ deals => exact .inl (deals.roster.engine.running running)
  | dealt _ _ deals => exact .inl (deals.roster.engine.running running)
  | woken _ _ _ touches => exact .inl (touches.running running)
  | ran => exact .inl (List.append_ne_nil_of_right_ne_nil _ (List.cons_ne_nil _ _))
  | dismissed => exact .inl (mt Engine.dismiss_loops_eq_nil.mp running)
  | _ => exact .inl running

/-- A step of a run in which the engine stops, or a job is called that panics at once. -/
def LosesLoop (first : Workday) (doings : List Doing) : Prop :=
  ∃ before place after reached next, doings = before ++ .step place :: after ∧
    first.follow? before = some reached ∧ reached.perform? (.step place) = some next ∧
      (next.replica.engine.stopped = true ∨ ¬reached.Unbroken)

theorem LosesLoop.append {first : Workday} {doings : List Doing} (loses : first.LosesLoop doings)
    (more : List Doing) : first.LosesLoop (doings ++ more) := by
  obtain ⟨before, place, after, reached, next, rfl, rest⟩ := loses
  exact ⟨before, place, after ++ more, reached, next, by simp, rest⟩

theorem manned_of_follow? {first : Workday} {doings : List Doing} (manned : first.Manned)
    (running : first.replica.engine.loops ≠ [])
    (followed : first.follow? doings = some workday) :
    (∀ loop, .run loop ∉ doings) →
      workday.Manned ∧ (workday.replica.engine.loops ≠ [] ∨ first.LosesLoop doings) := by
  apply history_induction ?_ followed
  · exact fun _ => ⟨manned, .inl running⟩
  · intro doings doing reached next ran performed ih unrun
    obtain ⟨manned, goesOn⟩ := ih fun loop member => unrun loop (List.mem_append_left _ member)
    have wrought := perform?_wrought performed
    have other (loop : Nat) : doing ≠ .run loop := fun same =>
      unrun loop (same ▸ List.mem_concat_self)
    refine ⟨wrought.manned other manned, ?_⟩
    rcases goesOn with running | loses
    · refine (wrought.running manned running).imp_right ?_
      rintro ⟨⟨place, rfl⟩, ends⟩
      exact ⟨doings, place, [], reached, next, rfl, ran, performed, ends⟩
    · exact .inr (loses.append [doing])

theorem perform?_step {place : Nat} {loop : Loop} {engine : Engine Cron.Pattern Duty}
    {pass : Pass Duty} (found : workday.replica.engine.loops[place]? = some loop)
    (stepped : workday.replica.engine.step? workday.replica.mechanism workday.replica.wall loop =
      some (engine, pass)) :
    workday.perform? (.step place) = some { workday with
      replica := (workday.replica.withEngine engine).noteAll pass.notices
      waiting := workday.waiting ++ pass.started } := by
  simp only [perform?, found, stepped, bind, Option.bind_some]
  rfl

/-- The due jobs are waiting to begin, and their loop goes on. -/
def Serves (workday next : Workday) : Prop :=
  next.replica.engine.loops ≠ [] ∧ ∃ started,
    started.map Firing.id = workday.due.map Entry.id ∧ next.waiting = workday.waiting ++ started

theorem serves_soon {steps : Nat} {loop : Loop} (alone : workday.replica.engine.loops = [loop])
    (vigilant : workday.replica.engine.Vigilant loop)
    (near : loop.distance workday.replica.engine.changePermit ≤ steps)
    {entry : Entry Cron.Pattern Duty} (due : entry ∈ workday.due) (unbroken : workday.Unbroken) :
    ∃ count ≤ steps, ∃ next, workday.follow? (List.replicate count (.step 0)) = some next ∧
      (next.replica.engine.stopped = true ∨ workday.Serves next) := by
  induction steps generalizing workday loop with
  | zero => exact absurd near (Nat.not_le_of_gt (loop.distance_pos _))
  | succ steps ih =>
      obtain ⟨member, past⟩ := List.mem_filter.mp due
      obtain ⟨engine, pass, stepped, hastens⟩ :=
        vigilant.hastens workday.replica.mechanism alone member past
      have found : workday.replica.engine.loops[0]? = some loop := by simp [alone]
      have performed := perform?_step found stepped
      cases hastens with
      | fired =>
          refine ⟨1, Nat.le_add_left 1 steps, _, Option.bind_eq_some_iff.mpr ⟨_, performed, rfl⟩,
            .inr ⟨(Engine.fire_running_iff alone).mpr unbroken, _, ?_, rfl⟩⟩
          exact Engine.fire_started_iff.mpr unbroken
      | ended stopped =>
          exact ⟨1, Nat.le_add_left 1 steps, _, Option.bind_eq_some_iff.mpr ⟨_, performed, rfl⟩,
            .inl stopped⟩
      | nearer same alone vigilant nearer =>
          let reached : Workday := { workday with replica := workday.replica.withEngine engine }
          have performed : workday.perform? (.step 0) = some reached := by
            rw [performed, List.append_nil]
            rfl
          have stillDue : reached.due = workday.due := by
            change engine.timetable.entries.filter _ = _
            rw [same]
            rfl
          have kept : reached.Unbroken := by
            intro entry listed
            have listed : entry ∈ reached.due := listed
            rw [stillDue] at listed
            exact unbroken entry listed
          obtain ⟨count, within, next, followed, serves⟩ := @ih reached _ alone vigilant
            (Nat.le_of_lt_succ (Nat.lt_of_lt_of_le nearer near)) (stillDue ▸ due) kept
          refine ⟨count + 1, Nat.succ_le_succ within, next,
            Option.bind_eq_some_iff.mpr ⟨reached, performed, followed⟩, serves.imp_right ?_⟩
          rintro ⟨running, started, ids, waiting⟩
          exact ⟨running, started, ids.trans (congrArg _ stillDue), waiting⟩

/-- What has been started waits until it begins. -/
theorem perform?_waits (performed : workday.perform? doing = some next)
    (unbegun : ∀ place, doing ≠ .begin place)
    (undeferred : ∀ place name, doing ≠ .defer place name) :
    ∃ started, next.waiting = workday.waiting ++ started := by
  have kept (same : next.waiting = workday.waiting) :
      ∃ started, next.waiting = workday.waiting ++ started :=
    ⟨[], same.trans (List.append_nil _).symm⟩
  cases doing with
  | step place =>
      simp only [perform?, bind, Option.bind_eq_some_iff] at performed
      obtain ⟨loop, found, ⟨engine, pass⟩, stepped, performed⟩ := performed
      cases performed
      exact ⟨pass.started, rfl⟩
  | begin place => exact absurd rfl (unbegun place)
  | defer place name => exact absurd rfl (undeferred place name)
  | finish name =>
      simp only [perform?] at performed
      split at performed <;> cases performed <;> exact kept rfl
  | wake worker =>
      simp only [perform?, bind, Option.bind_eq_some_iff] at performed
      obtain ⟨found, listed, performed⟩ := performed
      split at performed <;> cases performed
      exact kept rfl
  | wait later =>
      obtain ⟨_, performed⟩ := Option.ite_none_right_eq_some.mp performed
      cases performed
      exact kept rfl
  | initialise =>
      simp only [perform?] at performed
      split at performed <;> cases performed <;> exact kept rfl
  | run loop =>
      obtain ⟨_, performed⟩ := Option.ite_none_left_eq_some.mp performed
      split at performed <;> cases performed <;> exact kept rfl
  | _ =>
      cases performed
      exact kept rfl

/-! Jobs. -/

/-- What is logged of the end of a job: only a panic. -/
def jobNotices (name : String) : Rest → List Notice
  | .ended (.panicked cause) => [.panicked ("cron:" ++ name) cause]
  | _ => []

theorem jobNotices_eq (name : String) (work : Work) :
    ({ name := "cron:" ++ name, work } : Assignment).reports = jobNotices name := by
  funext rest
  cases rest with
  | ended outcome => cases outcome <;> rfl
  | _ => rfl

/-- A job that has begun reports how it ended, whatever else is done. -/
theorem reports_of_begun (sound : workday.replica.crew.Sound) {place : Nat} {firing : Firing Duty}
    (waits : workday.waiting[place]? = some firing) {work : Work}
    (duty : firing.duty = .work (.ok work)) :
    ∃ next worker, workday.perform? (.begin place) = some next ∧
      next.waiting = workday.waiting.eraseIdx place ∧
      ∀ doings final, next.follow? doings = some final → ∃ answers rest,
        final.Reports worker work (jobNotices firing.name)
          (workday.replica.journal.since next.replica.journal ++ next.logged worker doings)
          answers rest := by
  let assignment : Assignment := { name := "cron:" ++ firing.name, work }
  have begun : workday.replica.perform firing = (workday.replica.assign assignment).2 := by
    simp only [Replica.perform, duty]
    rfl
  refine ⟨_, (workday.replica.assign assignment).1,
    Option.bind_eq_some_iff.mpr ⟨firing, waits, rfl⟩, rfl, fun doings final followed => ?_⟩
  rw [← jobNotices_eq firing.name work]
  exact reports_of_assigned sound assignment begun followed

/-- The loop goes on unless the engine stops or a job panics when it is called. A pass starts all
that is due, and keeps its loop, exactly if no job of the pass does; what is due meets such a pass
within five steps. What has been started waits until it begins, and once begun it can only log its
own notes and, if it panics, that panic under its own name. -/
theorem engine_outlives_jobs {first workday : Workday} {doings : List Doing}
    (manned : first.Manned) (running : first.replica.engine.loops ≠ [])
    (unrun : ∀ loop, .run loop ∉ doings) (followed : first.follow? doings = some workday) :
    let engine := workday.replica.engine
    (engine.loops ≠ [] ∨ first.LosesLoop doings) ∧
    (∀ loop, engine.loops = [loop] →
      let fired := engine.fire workday.replica.mechanism workday.replica.wall loop.id
      (fired.1.loops ≠ [] ↔ workday.Unbroken) ∧
      (fired.2.started.map Firing.id = workday.due.map Entry.id ↔ workday.Unbroken) ∧
      fired.1.stopped = engine.stopped) ∧
    (engine.loops ≠ [] → workday.due ≠ [] → workday.Unbroken →
      ∃ steps ≤ 5, ∃ next, workday.follow? (List.replicate steps (.step 0)) = some next ∧
        (next.replica.engine.stopped = true ∨ workday.Serves next)) ∧
    (∀ doing next, workday.perform? doing = some next → (∀ place, doing ≠ .begin place) →
      (∀ place name, doing ≠ .defer place name) →
      ∃ started, next.waiting = workday.waiting ++ started) ∧
    ∀ place firing work, workday.waiting[place]? = some firing →
      firing.duty = .work (.ok work) →
      ∃ next worker, workday.perform? (.begin place) = some next ∧
        next.waiting = workday.waiting.eraseIdx place ∧
        ∀ later final, next.follow? later = some final → ∃ answers rest,
          final.Reports worker work (jobNotices firing.name)
            (workday.replica.journal.since next.replica.journal ++ next.logged worker later)
            answers rest := by
  obtain ⟨manned, goesOn⟩ := manned_of_follow? manned running followed unrun
  refine ⟨goesOn, fun loop alone => ?_, fun running due unbroken => ?_,
    fun doing next => perform?_waits,
    fun place firing work waits duty => reports_of_begun manned.crew waits duty⟩
  · exact ⟨Engine.fire_running_iff alone, Engine.fire_started_iff, Engine.fire_stopped _⟩
  · obtain ⟨entry, listed⟩ := List.exists_mem_of_ne_nil _ due
    cases manned.watched with
    | idle idle => exact absurd idle running
    | going sole alone vigilant =>
        exact serves_soon alone vigilant (Loop.distance_le _ _) listed unbroken

/-! Two jobs that are due at every full second. -/

def addJob (engine : Engine Cron.Pattern Duty) (job : String × Except Panic Work) :
    Except ScheduleError (Engine Cron.Pattern Duty) :=
  (engine.add (Cron.mechanism 0) 0 job.1 "* * * * * *" (.work job.2)).map Prod.snd

def addJobs (engine : Engine Cron.Pattern Duty) (jobs : List (String × Except Panic Work)) :
    Except ScheduleError (Engine Cron.Pattern Duty) :=
  jobs.foldlM addJob engine

def start (engine : Engine Cron.Pattern Duty) : Workday :=
  { replica := { roster := { engine := engine.run 0 } } }

theorem start_manned {engine built : Engine Cron.Pattern Duty}
    {jobs : List (String × Except Panic Work)} (sound : engine.timetable.Sound)
    (idle : engine.loops = []) (added : addJobs engine jobs = .ok built) :
    (start built).Manned := by
  induction jobs generalizing engine with
  | nil =>
      cases added
      exact ⟨sound, Crew.start_sound, Engine.run_watched idle 0⟩
  | cons job jobs ih =>
      simp only [addJobs, List.foldlM_cons, bind, Except.bind, addJob] at added
      cases taken : engine.add (Cron.mechanism 0) 0 job.1 "* * * * * *" (.work job.2) with
      | error error =>
          rw [taken] at added
          cases added
      | ok entry =>
          rw [taken] at added
          obtain ⟨_, timetable, fits, same⟩ := Engine.add_eq_ok_iff.mp taken
          refine ih ?_ ((Engine.add_loops_eq_nil taken).mpr idle) added
          rw [same, Engine.rouse_timetable]
          exact sound.add fits

theorem ok_of_toOption {ε α : Type} {result : Except ε α} {value : α}
    (same : result.toOption = some value) : result = .ok value := by
  cases result <;> cases same
  rfl

/-- The loop goes to rest, and its entries come due. -/
def untilDue : List Doing := [.step 0, .step 0, .step 0, .step 0, .wait 1000]

def brittle : List (String × Except Panic Work) :=
  [("brittle", .error (.text "boom")), ("steady", .ok .finish)]

/-- A job that panics when it is called takes the loop down, and the job behind it is not started,
though both have been put off to their next times. Nothing of this is logged, and the engine has not
stopped. -/
theorem brittle_job_ends_loop : ∃ engine workday next, addJobs {} brittle = .ok engine ∧
    (start engine).follow? untilDue = some workday ∧
      workday.due.map Entry.name = ["brittle", "steady"] ∧
      workday.perform? (.step 0) = some next ∧ next.waiting = [] ∧ next.due = [] ∧
      next.replica.engine.loops = [] ∧ next.replica.engine.stopped = false ∧
      next.replica.journal.notices = [] := by
  have evaluated : (addJobs {} brittle).toOption.bind (fun engine =>
      ((start engine).follow? untilDue).bind fun workday =>
        (workday.perform? (.step 0)).map fun next =>
          (workday.due.map Entry.name, next.waiting.isEmpty, next.due.isEmpty,
            next.replica.engine.loops, next.replica.engine.stopped,
              next.replica.journal.notices.isEmpty)) =
      some (["brittle", "steady"], true, true, [], false, true) := by
    decide +kernel
  obtain ⟨engine, built, evaluated⟩ := Option.bind_eq_some_iff.mp evaluated
  obtain ⟨workday, followed, evaluated⟩ := Option.bind_eq_some_iff.mp evaluated
  obtain ⟨next, performed, same⟩ := Option.map_eq_some_iff.mp evaluated
  simp only [Prod.mk.injEq, List.isEmpty_iff] at same
  obtain ⟨due, waiting, later, loops, stopped, notices⟩ := same
  exact ⟨engine, workday, next, ok_of_toOption built, followed, due, performed, waiting, later,
    loops, stopped, notices⟩

def hasty : List (String × Except Panic Work) :=
  [("hasty", .ok (.panic (.text "boom"))), ("steady", .ok .finish)]

def isHasty (firing : Firing Duty) : Bool :=
  match firing.duty with
  | .work (.ok (.panic (.text payload))) => firing.name == "hasty" && payload == "boom"
  | _ => false

theorem duty_of_isHasty {firing : Firing Duty} (chosen : isHasty firing = true) :
    firing.name = "hasty" ∧ firing.duty = .work (.ok (.panic (.text "boom"))) := by
  simp only [isHasty] at chosen
  split at chosen
  · rename_i payload same
    simp only [Bool.and_eq_true, beq_iff_eq] at chosen
    exact ⟨chosen.1, chosen.2 ▸ same⟩
  · cases chosen

/-- A job that panics once it is under way leaves the loop and the job behind it alone. -/
theorem hasty_job_contained : ∃ engine workday next worker answers rest,
    addJobs {} hasty = .ok engine ∧ (start engine).Manned ∧
      (start engine).replica.engine.loops ≠ [] ∧
      (∀ loop, .run loop ∉ untilDue ++ [.step 0]) ∧
      (start engine).follow? (untilDue ++ [.step 0]) = some workday ∧
      workday.waiting.map Firing.name = ["hasty", "steady"] ∧
      workday.replica.engine.loops ≠ [] ∧ workday.perform? (.begin 0) = some next ∧
      next.Reports worker (.panic (.text "boom")) (jobNotices "hasty")
        (workday.replica.journal.since next.replica.journal) answers rest := by
  have evaluated : (addJobs {} hasty).toOption.bind (fun engine =>
      ((start engine).follow? (untilDue ++ [.step 0])).map fun workday =>
        (workday.waiting.map Firing.name, workday.waiting.head?.any isHasty,
          workday.replica.engine.loops.isEmpty)) =
      some (["hasty", "steady"], true, false) := by
    decide +kernel
  obtain ⟨engine, built, evaluated⟩ := Option.bind_eq_some_iff.mp evaluated
  obtain ⟨workday, followed, same⟩ := Option.map_eq_some_iff.mp evaluated
  simp only [Prod.mk.injEq, Option.any_eq_true] at same
  obtain ⟨names, ⟨firing, first, chosen⟩, loops⟩ := same
  have built := ok_of_toOption built
  have manned := start_manned Timetable.empty_sound rfl built
  have running : (start engine).replica.engine.loops ≠ [] :=
    List.append_ne_nil_of_right_ne_nil _ (List.cons_ne_nil _ _)
  have unrun : ∀ loop, .run loop ∉ untilDue ++ [.step 0] := by simp [untilDue]
  have waits : workday.waiting[0]? = some firing := by rwa [List.head?_eq_getElem?] at first
  obtain ⟨name, duty⟩ := duty_of_isHasty chosen
  obtain ⟨_, _, _, _, jobs⟩ := engine_outlives_jobs manned running unrun followed
  obtain ⟨next, worker, begun, _, later⟩ := jobs 0 firing _ waits duty
  obtain ⟨answers, rest, reports⟩ := later [] next rfl
  rw [name, logged, List.append_nil] at reports
  exact ⟨engine, workday, next, worker, answers, rest, built, manned, running, unrun, followed,
    names, by simpa using loops, begun, reports⟩

end Workday

end Rota
