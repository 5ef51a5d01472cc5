import Rota.Proofs.Replica.Completion

/-!
Supervised work. A worker goes through the work in stints, and other doings come in between. Main
statement: all that the worker ever logs is what the work notes itself and, if it ends, one report
of its outcome.
-/

namespace Rota

open Rota.Schedule Rota.Task

namespace Journal

/-- What was logged since another state of the journal, in that order. -/
def since (earlier later : Journal) : List Notice :=
  ((later.notices.take (later.notices.length - earlier.notices.length)).map Prod.snd).reverse

theorem noteAll_notices (journal : Journal) (now : Instant) (notices : List Notice) :
    (journal.noteAll now notices).notices =
      (notices.map fun notice => (now, notice)).reverse ++ journal.notices := by
  induction notices generalizing journal with
  | nil => rfl
  | cons notice notices ih =>
      rw [noteAll, List.foldl_cons, ← noteAll, ih]
      simp [note]

variable {earlier later : Journal} {now : Instant} {notices : List Notice}

theorem since_eq (logged : later.notices = (earlier.noteAll now notices).notices) :
    earlier.since later = notices := by
  rw [since, logged, noteAll_notices]
  simp [Function.comp_def]

end Journal

/-! What becomes of work. -/

namespace Task

/-- Work goes on as other work: given answers to its removals, and after what it notes itself. -/
inductive Work.Leads : List Bool → List Notice → Work → Work → Prop
  | here (work : Work) : Leads [] [] work work
  | record {event answers noted next last} : Leads answers noted next last →
      Leads answers noted (.record event next) last
  | note {notice answers noted next last} : Leads answers noted next last →
      Leads answers (notice :: noted) (.note notice next) last
  | sleep {duration answers noted next last} : Leads answers noted next last →
      Leads answers noted (.sleep duration next) last
  | removeEntry {entry present answers noted next last} :
      Leads answers noted (next present) last →
      Leads (present :: answers) noted (.removeEntry entry next) last

def Outcome.ending : Outcome → Work
  | completed => .finish
  | failed error => .fail error
  | panicked cause => .panic cause

/-- What is left to do. -/
def Rest.work : Rest → Work
  | ended outcome => outcome.ending
  | asleep _ next => next
  | hung => .hang

def Assignment.reports (assignment : Assignment) : Rest → List Notice
  | .ended outcome => (assignment.report outcome).toList
  | _ => []

namespace Work

variable {answers others : List Bool} {noted noticed : List Notice} {work next last : Work}

theorem Leads.trans (earlier : work.Leads answers noted next)
    (later : next.Leads others noticed last) :
    work.Leads (answers ++ others) (noted ++ noticed) last := by
  induction earlier with
  | here => exact later
  | record _ ih => exact .record (ih later)
  | note _ ih => exact .note (ih later)
  | sleep _ ih => exact .sleep (ih later)
  | removeEntry _ ih => exact .removeEntry (ih later)

/-- Nothing comes after this work. -/
def IsLast : Work → Prop
  | record _ _ => False
  | note _ _ => False
  | sleep _ _ => False
  | removeEntry _ _ => False
  | _ => True

/-- The answers decide what the work comes to. -/
theorem Leads.unique (leads : work.Leads answers noted next) (ends : next.IsLast)
    (other : work.Leads answers noticed last) (endsToo : last.IsLast) : next = last := by
  induction leads generalizing noticed with
  | here =>
      cases other with
      | here => rfl
      | _ => exact ends.elim
  | record _ ih =>
      cases other with
      | here => exact endsToo.elim
      | record other => exact ih ends other
  | note _ ih =>
      cases other with
      | here => exact endsToo.elim
      | note other => exact ih ends other
  | sleep _ ih =>
      cases other with
      | here => exact endsToo.elim
      | sleep other => exact ih ends other
  | removeEntry _ ih =>
      cases other with
      | removeEntry other => exact ih ends other

theorem Leads.ends (leads : work.Leads answers noted next) (ends : work.Ends) : next.Ends := by
  induction leads with
  | here => exact ends
  | record _ ih => exact ih ends
  | note _ ih => exact ih ends
  | sleep _ ih => exact ih ends
  | removeEntry _ ih => exact ih (ends _)

theorem perform_leads {σ : Type} (remove : EntryId → σ → Bool × σ) (now : Instant) (work : Work)
    (state : σ) (journal : Journal) :
    let performed := work.perform remove now state journal
    ∃ answers noted, work.Leads answers noted performed.1.work ∧
      performed.2.2.notices = (journal.noteAll now noted).notices := by
  induction work generalizing state journal with
  | finish => exact ⟨[], [], .here _, rfl⟩
  | fail error => exact ⟨[], [], .here _, rfl⟩
  | panic cause => exact ⟨[], [], .here _, rfl⟩
  | hang => exact ⟨[], [], .here _, rfl⟩
  | record event next ih =>
      obtain ⟨answers, noted, leads, logged⟩ := ih state (journal.record now event)
      refine ⟨answers, noted, .record leads, logged.trans ?_⟩
      simp only [Journal.noteAll_notices, Journal.record]
  | note notice next ih =>
      obtain ⟨answers, noted, leads, logged⟩ := ih state (journal.note now notice)
      exact ⟨answers, notice :: noted, .note leads, logged⟩
  | sleep duration next ih =>
      cases duration with
      | zero =>
          obtain ⟨answers, noted, leads, logged⟩ := ih state journal
          exact ⟨answers, noted, .sleep leads, logged⟩
      | succ duration => exact ⟨[], [], .sleep (.here _), rfl⟩
  | removeEntry entry next ih =>
      obtain ⟨answers, noted, leads, logged⟩ :=
        ih (remove entry state).1 (remove entry state).2 journal
      exact ⟨_ :: answers, noted, .removeEntry leads, logged⟩

end Work

/-! Workers. -/

namespace Crew

/-- Where a worker stands who has come to rest, or has left with the work done. -/
def Holds (crew : Crew) (id : Nat) (assignment : Assignment) : Rest → Prop
  | .ended _ => crew.hasFinished id = true
  | .asleep wake next => { id, assignment, rest := some (wake, next) } ∈ crew.workers
  | .hung => { id, assignment, rest := none } ∈ crew.workers

/-- A worker has come to rest, or has left, and has logged certain notices on the way: those of the
work, and a report if the work has ended. -/
structure Supervises (crew : Crew) (id : Nat) (assignment : Assignment) (logged : List Notice)
    (answers : List Bool) (rest : Rest) : Prop where
  leads : ∃ noted, assignment.work.Leads answers noted rest.work ∧
    logged = noted ++ assignment.reports rest
  holds : crew.Holds id assignment rest

theorem Supervises.finished_iff {crew : Crew} {id : Nat} {assignment : Assignment}
    {logged : List Notice} {answers : List Bool} {rest : Rest}
    (supervises : crew.Supervises id assignment logged answers rest) :
    crew.hasFinished id = true ↔ ∃ outcome, rest = .ended outcome := by
  have holds := supervises.holds
  cases rest with
  | ended outcome => exact iff_of_true holds ⟨outcome, rfl⟩
  | asleep wake next =>
      exact iff_of_false (fun finished => hasFinished_iff.mp finished _ holds rfl) (by simp)
  | hung => exact iff_of_false (fun finished => hasFinished_iff.mp finished _ holds rfl) (by simp)

variable {σ : Type} (remove : EntryId → σ → Bool × σ) (now : Instant) {crew : Crew}
  {assignment : Assignment} {id : Nat}

theorem settle_holds (absent : ∀ worker ∈ crew.workers, worker.id ≠ id) (rest : Rest)
    (journal : Journal) :
    (crew.settle now id assignment rest journal).1.Holds id assignment rest := by
  cases rest with
  | ended outcome => exact hasFinished_iff.mpr absent
  | asleep wake next => exact List.mem_append_right _ List.mem_cons_self
  | hung => exact List.mem_append_right _ List.mem_cons_self

theorem settle_notices (rest : Rest) (journal : Journal) :
    (crew.settle now id assignment rest journal).2 =
      journal.noteAll now (assignment.reports rest) := by
  cases rest <;> rfl

/-- A stint: the worker is away at work, and comes to rest or leaves. -/
theorem stint (absent : ∀ worker ∈ crew.workers, worker.id ≠ id) (work : Work) (state : σ)
    (journal : Journal) :
    let performed := work.perform remove now state journal
    let settled := crew.settle now id assignment performed.1 performed.2.2
    ∃ answers noted, work.Leads answers noted performed.1.work ∧
      settled.1.Holds id assignment performed.1 ∧
      journal.since settled.2 = noted ++ assignment.reports performed.1 := by
  intro performed settled
  obtain ⟨answers, noted, leads, logged⟩ := work.perform_leads remove now state journal
  have news : settled.2.notices =
      (journal.noteAll now (noted ++ assignment.reports performed.1)).notices := by
    rw [settle_notices, Journal.noteAll_notices, logged, Journal.noteAll_notices,
      Journal.noteAll_notices]
    simp
  exact ⟨answers, noted, leads, settle_holds now absent _ _, Journal.since_eq news⟩

theorem start_supervises (sound : crew.Sound) (state : σ) (journal : Journal) :
    let started := crew.start remove now assignment state journal
    ∃ answers rest, started.2.1.Supervises started.1 assignment
      (journal.since started.2.2.2) answers rest := by
  have absent : ∀ worker ∈ crew.workers, worker.id ≠ crew.hired :=
    fun worker member => Nat.ne_of_lt (sound.hired worker member)
  have more : ∀ worker ∈ ({ crew with hired := crew.hired + 1 } : Crew).workers,
      worker.id ≠ crew.hired := absent
  obtain ⟨answers, noted, leads, holds, logged⟩ :=
    stint remove now more assignment.work state journal
  exact ⟨answers, _, ⟨noted, leads, logged⟩, holds⟩

theorem resume_supervises {wake : Instant} {work : Work} {logged : List Notice}
    {answers : List Bool}
    (before : crew.Supervises id assignment logged answers (.asleep wake work)) (state : σ)
    (journal : Journal) :
    let resumed := resume remove now (crew, state, journal)
      { id, assignment, rest := some (wake, work) }
    ∃ answers rest, resumed.1.Supervises id assignment (logged ++ journal.since resumed.2.2)
      answers rest := by
  obtain ⟨noted, leads, rfl⟩ := before.leads
  obtain ⟨others, noticed, goesOn, holds, news⟩ :=
    stint remove now (without_absent crew) work state journal
  refine ⟨answers ++ others, _, ⟨noted ++ noticed, leads.trans goesOn, ?_⟩, holds⟩
  have unreported : assignment.reports (.asleep wake work) = [] := rfl
  rw [unreported, List.append_nil, List.append_assoc]
  exact congrArg (noted ++ ·) news

end Crew

end Task

/-! Replicas. -/

namespace Replica

theorem assign_supervises (replica : Replica) (sound : replica.crew.Sound)
    (assignment : Assignment) :
    let assigned := replica.assign assignment
    ∃ answers rest, assigned.2.crew.Supervises assigned.1 assignment
      (replica.journal.since assigned.2.journal) answers rest :=
  Crew.start_supervises Engine.remove replica.now sound replica.engine replica.journal

end Replica

namespace Workday

/-- What a worker logs in a doing: only its own stints count. -/
def heard (workday : Workday) (worker : Nat) (next : Workday) : Doing → List Notice
  | .wake woken =>
    if woken = worker then workday.replica.journal.since next.replica.journal else []
  | _ => []

/-- All that a worker logs while others do what they do. -/
def logged (worker : Nat) : Workday → List Doing → List Notice
  | _, [] => []
  | workday, doing :: doings =>
    match workday.perform? doing with
    | none => []
    | some next => workday.heard worker next doing ++ logged worker next doings

variable {workday next final : Workday} {doing : Doing} {id : Nat} {assignment : Assignment}
  {heard : List Notice} {answers : List Bool} {rest : Rest} {doings : List Doing}

theorem holds_elsewhere (wrought : workday.Wrought doing next) (unwoken : doing ≠ .wake id)
    (hired : id < workday.replica.crew.hired)
    (holds : workday.replica.crew.Holds id assignment rest) :
    next.replica.crew.Holds id assignment rest := by
  cases rest with
  | ended outcome =>
      have gone : workday.replica.crew.Keeps (fun _ => False) (· = id) :=
        fun worker member same => Crew.hasFinished_iff.mp holds worker member same
      have still := (wrought.keeps gone hired fun _ _ _ _ _ => False.elim).1
      exact Crew.hasFinished_iff.mpr fun worker member same => still worker member same
  | asleep wake next => exact wrought.stays holds unwoken
  | hung => exact wrought.stays holds unwoken

theorem heard_elsewhere (unwoken : doing ≠ .wake id) : workday.heard id next doing = [] := by
  cases doing with
  | wake woken => exact if_neg fun same => unwoken (congrArg Doing.wake same)
  | _ => rfl

theorem resumed_of_perform? (performed : workday.perform? (.wake id) = some next) :
    ∃ found, workday.replica.crew.workers.find? (·.id == id) = some found ∧
      Crew.Worker.isDue workday.replica.now found = true ∧
      let resumed := Crew.resume Engine.remove workday.replica.now
        (workday.replica.crew, workday.replica.engine, workday.replica.journal) found
      next.replica.crew = resumed.1 ∧ next.replica.journal = resumed.2.2 := by
  simp only [perform?, bind, Option.bind_eq_some_iff] at performed
  obtain ⟨found, listed, performed⟩ := performed
  split at performed
  · rename_i due
    cases performed
    exact ⟨found, listed, due, rfl, rfl⟩
  · cases performed

/-- Whatever is done, the worker stands by the work, and logs nothing else. -/
theorem perform?_supervises (sound : workday.replica.crew.Sound)
    (supervises : workday.replica.crew.Supervises id assignment heard answers rest)
    (hired : id < workday.replica.crew.hired) (performed : workday.perform? doing = some next) :
    ∃ answers rest, next.replica.crew.Supervises id assignment
      (heard ++ workday.heard id next doing) answers rest := by
  by_cases woken : doing = .wake id
  · subst woken
    obtain ⟨found, listed, due, crew, journal⟩ := resumed_of_perform? performed
    have news : workday.heard id next (.wake id) =
        workday.replica.journal.since next.replica.journal := if_pos rfl
    rw [news, crew, journal]
    cases rest with
    | ended outcome =>
        have named : found.id = id := by simpa using List.find?_some listed
        exact absurd named
          (Crew.hasFinished_iff.mp supervises.holds found (List.mem_of_find?_eq_some listed))
    | asleep wake work =>
        cases (sound.find?_of_mem supervises.holds).symm.trans listed
        exact Crew.resume_supervises Engine.remove workday.replica.now supervises _ _
    | hung =>
        cases (sound.find?_of_mem supervises.holds).symm.trans listed
        cases due
  · refine ⟨answers, rest, ?_, holds_elsewhere (perform?_wrought performed) woken hired
      supervises.holds⟩
    rw [heard_elsewhere woken, List.append_nil]
    exact supervises.leads

/-- Numbers that were given stay given. -/
theorem Wrought.given (wrought : workday.Wrought doing next)
    (hired : id < workday.replica.crew.hired) : id < next.replica.crew.hired := by
  have anyhow : workday.replica.crew.Keeps (fun _ => True) (· = id) := fun _ _ _ => trivial
  refine (wrought.keeps anyhow hired fun now engine journal _ work _ => ?_).2
  cases (work.perform Engine.remove now engine journal).1 <;> trivial

theorem follow?_supervises (sound : workday.replica.crew.Sound)
    (supervises : workday.replica.crew.Supervises id assignment heard answers rest)
    (hired : id < workday.replica.crew.hired) (followed : workday.follow? doings = some final) :
    ∃ answers rest, final.replica.crew.Supervises id assignment
      (heard ++ workday.logged id doings) answers rest := by
  induction doings generalizing workday heard answers rest with
  | nil =>
      cases followed
      rw [logged, List.append_nil]
      exact ⟨answers, rest, supervises⟩
  | cons doing doings ih =>
      obtain ⟨next, performed, followed⟩ := Option.bind_eq_some_iff.mp followed
      have wrought := perform?_wrought performed
      obtain ⟨_, _, supervises⟩ := perform?_supervises sound supervises hired performed
      rw [logged, performed, ← List.append_assoc]
      exact ih (wrought.crew sound) supervises (wrought.given hired) followed

theorem follow?_crew (followed : workday.follow? doings = some final)
    (sound : workday.replica.crew.Sound) : final.replica.crew.Sound := by
  apply run_induction ?_ followed
  · exact sound
  · exact fun doing _ before next performed sound => (perform?_wrought performed).crew sound

/-- Work that never hangs can be brought to its end. -/
theorem completes_of_supervises (sound : workday.replica.crew.Sound)
    (supervises : workday.replica.crew.Supervises id assignment heard answers rest)
    (ends : assignment.work.Ends) : workday.Completes id := by
  obtain ⟨noted, leads, _⟩ := supervises.leads
  have endsLater := leads.ends ends
  refine completes_of_ending sound fun worker member same => ?_
  obtain rfl : worker.id = id := same
  have holds := supervises.holds
  cases rest with
  | ended outcome => exact absurd rfl (Crew.hasFinished_iff.mp holds worker member)
  | asleep wake next =>
      have listed := sound.find?_of_mem holds
      have found := Option.some.inj ((sound.find?_of_mem member).symm.trans listed)
      exact ⟨wake, next, congrArg Worker.rest found, endsLater⟩
  | hung => exact endsLater.elim

/-- A worker has logged what the work noted on the way to where it stands, then what its end calls
for, and nothing else; if the work never hangs it can be brought to its end. -/
structure Reports (workday : Workday) (worker : Nat) (work : Work) (notices : Rest → List Notice)
    (logged : List Notice) (answers : List Bool) (rest : Rest) : Prop where
  leads : ∃ noted, work.Leads answers noted rest.work ∧ logged = noted ++ notices rest
  finished_iff : workday.replica.crew.hasFinished worker = true ↔ ∃ outcome, rest = .ended outcome
  completes : work.Ends → workday.Completes worker

/-- Whoever is given work stands by it from then on, whatever else is done. -/
theorem reports_of_assigned {replica : Replica} (sound : replica.crew.Sound)
    (assignment : Assignment) (assigned : workday.replica = (replica.assign assignment).2)
    (followed : workday.follow? doings = some final) :
    let worker := (replica.assign assignment).1
    ∃ answers rest, final.Reports worker assignment.work assignment.reports
      (replica.journal.since workday.replica.journal ++ workday.logged worker doings)
      answers rest := by
  have joined : workday.replica.crew.Sound := by
    rw [assigned]
    exact sound.hires (replica.crew.start_hires ..)
  have hired : (replica.assign assignment).1 < workday.replica.crew.hired := by
    have more : workday.replica.crew.hired = replica.crew.hired + 1 := by
      rw [assigned]
      exact Crew.settle_hired ..
    rw [more]
    exact Nat.lt_succ_self _
  obtain ⟨_, _, begun⟩ := replica.assign_supervises sound assignment
  rw [← assigned] at begun
  obtain ⟨answers, rest, supervises⟩ := follow?_supervises joined begun hired followed
  exact ⟨answers, rest, supervises.leads, supervises.finished_iff,
    completes_of_supervises (follow?_crew followed joined) supervises⟩

end Workday

end Rota
