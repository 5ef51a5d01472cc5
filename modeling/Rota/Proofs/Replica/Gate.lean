import Rota.Proofs.Election.Sessions
import Rota.Proofs.Election.Terms
import Rota.Proofs.Replica.Isolation
import Rota.Proofs.Run

/-!
The gate between the duties of stored tasks and their dispatch. Main statement: the duty of a task
dispatches what its entry was registered for if nobody has to lead or the elector leads as the
duty begins, and if the arguments can be read; nothing else dispatches, whatever the elector goes
through; and what becomes of the tasks is all the same to the schedule.
-/

namespace Rota

open Rota.Election Rota.Schedule Rota.Task

/-- A replica at work, and what the elector goes through that is attached to its roster. -/
structure Office where
  workday : Workday
  career : Career

namespace Office

inductive Act where
  | day (doing : Doing)
  | elect (incident : Incident)

def Act.isWake : Act → Bool
  | day (.wake _) => true
  | _ => false

def opening (replica : Replica) (settings : ScheduleSettings) (attached : Bool)
    (candidate : String) (election : Election.Settings) : Office :=
  let elector : Elector := { candidate, settings := election }
  { career := { elector }
    workday := { replica := { replica with
      roster := { settings, gated := attached && settings.leaderOnly }
      cluster := Cluster.ofElectors [elector]
      crew := {}
      held := [] } } }

def seat (office : Office) (career : Career) : Office :=
  let cluster := office.workday.replica.cluster.modifyElector Replica.self fun _ => career.elector
  { career
    workday := { office.workday with replica := { office.workday.replica with cluster } } }

def perform? (office : Office) : Act → Option Office
  | .day doing => (office.workday.perform? doing).map fun workday => { office with workday }
  | .elect incident => (office.career.happen? incident).map office.seat

def follow? (office : Office) (acts : List Act) : Option Office := acts.foldlM perform? office

def Clears (settings : ScheduleSettings) (attached : Bool) (office : Office) : Prop :=
  attached = false ∨ settings.leaderOnly = false ∨ office.career.elector.isLeader = true

def Stored (first : Office) (acts : List Act) (definition : Definition) : Prop :=
  ∃ before after office, acts = before ++ after ∧ first.follow? before = some office ∧
    definition ∈ Rows.values office.workday.replica.store.rows

/-- An act has given out the number to an entry for a definition that was stored by then. -/
def Registered (first : Office) (acts : List Act) (number : EntryId) (definition : Definition) :
    Prop :=
  ∃ before act after earlier later, acts = before ++ act :: after ∧
    first.follow? before = some earlier ∧ earlier.perform? act = some later ∧
    earlier.workday.replica.engine.timetable.nextId ≤ number ∧
    later.workday.replica.engine.timetable.duty? number = some (.task definition) ∧
    first.Stored before definition ∧ definition.enabled = true

def Recorded (first : Office) (acts : List Act) (number : EntryId) : Duty → Prop
  | .reload => True
  | .task definition => first.Registered acts number definition
  | .work _ => False

/-! What an office makes of its acts. -/

inductive Acted (office : Office) : Act → Office → Prop
  | worked {doing workday} : office.workday.Wrought doing workday →
      Acted office (.day doing) { office with workday }
  | elected {incident career} : office.career.Changes career →
      Acted office (.elect incident) (office.seat career)

variable {office next last first : Office} {act : Act} {acts : List Act}

theorem perform?_acted (performed : office.perform? act = some next) : office.Acted act next := by
  cases act with
  | day doing =>
      obtain ⟨workday, wrought, rfl⟩ := Option.map_eq_some_iff.mp performed
      exact .worked (Workday.perform?_wrought wrought)
  | elect incident =>
      obtain ⟨career, happened, rfl⟩ := Option.map_eq_some_iff.mp performed
      exact .elected (Career.happen?_changes happened)

structure Sound (settings : ScheduleSettings) (attached : Bool) (office : Office) : Prop where
  seated : office.workday.replica.cluster.elector? Replica.self = some office.career.elector
  gated : office.workday.replica.roster.gated = (attached && settings.leaderOnly)
  accounted : office.career.Accounted
  termed : office.career.Termed

variable {settings : ScheduleSettings} {attached : Bool}

theorem Sound.acted (sound : office.Sound settings attached) (acted : office.Acted act next) :
    next.Sound settings attached := by
  cases acted with
  | worked wrought =>
      refine ⟨?_, wrought.gated.trans sound.gated, sound.accounted, sound.termed⟩
      rw [wrought.cluster]
      exact sound.seated
  | elected changes =>
      refine ⟨?_, sound.gated, sound.accounted.changes changes, sound.termed.changes changes⟩
      simp only [seat]
      rw [Cluster.elector?_modifyElector, if_pos rfl, sound.seated]
      rfl

theorem Sound.isLeader (sound : office.Sound settings attached) :
    office.workday.replica.isLeader = office.career.elector.isLeader := by
  simp [Replica.isLeader, Cluster.isLeader, sound.seated]

/-! What an office has recorded of its definitions. -/

theorem follow?_append {later : List Act} (followed : first.follow? acts = some office)
    (follows : office.follow? later = some last) : first.follow? (acts ++ later) = some last := by
  rw [follow?, List.foldlM_append]
  exact Option.bind_eq_some_iff.mpr ⟨office, followed, follows⟩

theorem Stored.append {definition : Definition} (stored : first.Stored acts definition)
    (later : List Act) : first.Stored (acts ++ later) definition := by
  obtain ⟨before, after, office, rfl, followed, member⟩ := stored
  exact ⟨before, after ++ later, office, List.append_assoc .., followed, member⟩

theorem Recorded.append {number : EntryId} {duty : Duty}
    (recorded : first.Recorded acts number duty) (later : List Act) :
    first.Recorded (acts ++ later) number duty := by
  cases duty with
  | reload => trivial
  | task definition =>
      obtain ⟨before, act, after, earlier, next, rfl, registered⟩ := recorded
      exact ⟨before, act, after ++ later, earlier, next, by simp, registered⟩
  | work => exact recorded

/-- Whatever an office knows or has waiting is on record. -/
structure Recalls (first : Office) (acts : List Act) (office : Office) : Prop where
  timetable : office.workday.replica.engine.timetable.Sound
  known : ∀ definition, office.workday.replica.Knows definition → first.Stored acts definition
  entries : ∀ number duty, office.workday.replica.engine.timetable.duty? number = some duty →
    first.Recorded acts number duty
  waiting : ∀ firing ∈ office.workday.waiting, first.Recorded acts firing.id firing.duty
  crew : office.workday.replica.crew.Sound

theorem Recalls.acted (recalls : Recalls first acts office)
    (followed : first.follow? acts = some office) (performed : office.perform? act = some next) :
    Recalls first (acts ++ [act]) next := by
  have reached : first.follow? (acts ++ [act]) = some next :=
    follow?_append followed (Option.bind_eq_some_iff.mpr ⟨next, performed, rfl⟩)
  have acted := perform?_acted performed
  refine ⟨?_, ?_, ?_, ?_, ?_⟩
  · cases acted with
    | worked wrought => exact wrought.sound recalls.timetable
    | elected => exact recalls.timetable
  · rintro definition (stored | ⟨name, ticket, definitions, present, member⟩)
    · exact ⟨acts ++ [act], [], next, by simp, reached, stored⟩
    · have old (held : (name, ticket, .ok definitions) ∈ office.workday.replica.held) :
          first.Stored (acts ++ [act]) definition :=
        (recalls.known definition (.inr ⟨name, ticket, definitions, held, member⟩)).append _
      cases acted with
      | worked wrought =>
          rcases wrought.held present with held | read
          · exact old held
          · -- The read was answered with the rows of this instant.
            exact ⟨acts, [_], office, rfl, followed, read ▸ member⟩
      | elected => exact old present
  · intro number duty stands
    cases acted with
    | worked wrought =>
        rcases wrought.duty? recalls.timetable stands with old | ⟨fresh, comes⟩
        · exact (recalls.entries number duty old).append _
        · cases duty with
          | reload => trivial
          | task definition =>
              exact ⟨acts, _, [], office, _, rfl, followed, performed, fresh, stands,
                recalls.known definition comes.1, comes.2⟩
          | work => exact comes
    | elected => exact (recalls.entries number duty stands).append _
  · intro firing waits
    cases acted with
    | worked wrought =>
        rcases wrought.waiting recalls.timetable waits with old | stands
        · exact (recalls.waiting firing old).append _
        · exact (recalls.entries firing.id firing.duty stands).append _
    | elected => exact (recalls.waiting firing waits).append _
  · cases acted with
    | worked wrought => exact wrought.crew recalls.crew
    | elected => exact recalls.crew

variable (replica : Replica) (settings : ScheduleSettings) (attached : Bool) (candidate : String)
  (election : Election.Settings)

theorem opening_sound :
    (opening replica settings attached candidate election).Sound settings attached where
  seated := rfl
  gated := rfl
  accounted := Career.start_accounted candidate election
  termed := Career.start_termed candidate election

theorem opening_recalls :
    Recalls (opening replica settings attached candidate election) []
      (opening replica settings attached candidate election) where
  timetable := Timetable.empty_sound
  known := by
    rintro definition (stored | ⟨_, _, _, held, _⟩)
    · exact ⟨[], [], _, rfl, rfl, stored⟩
    · cases held
  entries := by
    rintro number duty stands
    cases stands
  waiting := by
    rintro firing waits
    cases waits
  crew := Crew.start_sound

variable {replica settings attached candidate election}

theorem sound_of_follow?
    (followed : (opening replica settings attached candidate election).follow? acts = some office) :
    office.Sound settings attached :=
  run_induction (fun _ _ _ _ performed sound => sound.acted (perform?_acted performed)) followed
    (opening_sound replica settings attached candidate election)

theorem recalls_of_follow?
    (followed : (opening replica settings attached candidate election).follow? acts = some office) :
    Recalls (opening replica settings attached candidate election) acts office :=
  history_induction (fun _ _ _ _ ran performed recalls => recalls.acted ran performed) followed
    (opening_recalls replica settings attached candidate election)

/-! What comes of a duty that begins. -/

/-- What the duty of a stored task makes of a replica: the gate comes before the arguments. -/
inductive Turn (cleared : Prop) (workday : Workday) (place : Nat) (number : EntryId)
    (definition : Definition) : Workday → Prop
  | skipped : ¬cleared → Turn cleared workday place number definition
      { workday with waiting := workday.waiting.eraseIdx place }
  | unreadable {fault} : cleared → definition.decodeArguments = .error fault →
      Turn cleared workday place number definition { workday with
        replica := workday.replica.note (.argumentsUnreadable definition.id definition.name)
        waiting := workday.waiting.eraseIdx place }
  | dispatched {values} : cleared → definition.decodeArguments = .ok values →
      Turn cleared workday place number definition {
        replica := (workday.replica.dispatch definition.name values).2
        waiting := workday.waiting.eraseIdx place
        dispatched := workday.dispatched ++ [(number, definition.name, values)] }

theorem Turn.dispatches_iff {cleared : Prop} {workday next : Workday} {place : Nat}
    {number : EntryId} {definition : Definition}
    (turn : Turn cleared workday place number definition next) :
    next.dispatched ≠ workday.dispatched ↔
      cleared ∧ ∃ values, definition.decodeArguments = .ok values := by
  cases turn with
  | skipped closed => simp [closed]
  | unreadable _ fault => simp [fault]
  | dispatched cleared decoded => simp [cleared, decoded]

theorem Sound.closed_iff (sound : office.Sound settings attached) :
    (office.workday.replica.roster.gated && !office.workday.replica.isLeader) = true ↔
      ¬office.Clears settings attached := by
  rw [sound.gated, sound.isLeader, Clears]
  cases attached <;> cases settings.leaderOnly <;> simp

variable {place : Nat} {firing : Firing Duty} {definition : Definition}

theorem Sound.begins (sound : office.Sound settings attached)
    (waits : office.workday.waiting[place]? = some firing) (duty : firing.duty = .task definition) :
    ∃ workday, office.perform? (.day (.begin place)) = some { office with workday } ∧
      Turn (office.Clears settings attached) office.workday place firing.id definition workday := by
  have performed : office.perform? (.day (.begin place)) = some { office with workday := {
      replica := office.workday.replica.perform firing
      waiting := office.workday.waiting.eraseIdx place
      dispatched := office.workday.dispatched ++
        (office.workday.replica.dispatch? firing).toList } } := by
    simp [perform?, Workday.perform?, waits]
  refine ⟨_, performed, ?_⟩
  have closed := sound.closed_iff
  simp only [Replica.perform, Replica.dispatch?, duty, Definition.verdict]
  by_cases cleared : office.Clears settings attached
  · rw [if_neg (closed.not.mpr (not_not.mpr cleared))]
    cases decoded : definition.decodeArguments with
    | error fault =>
        have turn : Turn _ office.workday place firing.id definition _ :=
          .unreadable cleared decoded
        simpa using turn
    | ok values => exact .dispatched cleared decoded
  · rw [if_pos (closed.mpr cleared)]
    have turn : Turn _ office.workday place firing.id definition _ := .skipped cleared
    simpa using turn

theorem begins_reload (waits : office.workday.waiting[place]? = some firing)
    (duty : firing.duty = .reload) :
    office.perform? (.day (.begin place)) = some { office with workday := { office.workday with
      replica := office.workday.replica.reloadLogged .reloadFailed
      waiting := office.workday.waiting.eraseIdx place } } := by
  simp [perform?, Workday.perform?, waits, Replica.perform, Replica.dispatch?, duty]

theorem reloadLogged_cluster (replica : Replica) (cluster : Cluster) (notice : String → Notice) :
    ({ replica with cluster } : Replica).reloadLogged notice =
      { replica.reloadLogged notice with cluster } := by
  simp only [Replica.reloadLogged, Replica.reload, Replica.readDefinitions]
  cases replica.store.findAll.1 with
  | error error => rfl
  | ok definitions => rfl

/-- Nothing but the duty of a stored task dispatches anything or takes anybody on. -/
theorem Sound.dispatches_only (sound : office.Sound settings attached)
    (recalls : Recalls first acts office) (performed : office.perform? act = some next) :
    (∃ place firing definition values, act = .day (.begin place) ∧
      office.workday.waiting[place]? = some firing ∧ firing.duty = .task definition ∧
      office.Clears settings attached ∧ definition.decodeArguments = .ok values) ∨
    next.workday.dispatched = office.workday.dispatched ∧
      next.workday.replica.crew.hired = office.workday.replica.crew.hired := by
  cases act with
  | elect incident =>
      obtain ⟨career, _, rfl⟩ := Option.map_eq_some_iff.mp performed
      exact .inr ⟨rfl, rfl⟩
  | day doing =>
      by_cases begins : ∃ place, doing = .begin place
      · obtain ⟨place, rfl⟩ := begins
        obtain ⟨workday, began, rfl⟩ := Option.map_eq_some_iff.mp performed
        simp only [Workday.perform?, bind, Option.bind_eq_some_iff] at began
        obtain ⟨firing, waits, _⟩ := began
        have recorded := recalls.waiting firing (List.mem_of_getElem? waits)
        cases duty : firing.duty with
        | reload =>
            cases performed.symm.trans (begins_reload waits duty)
            exact .inr ⟨rfl, congrArg Crew.hired (Replica.reloadLogged_crew _ _)⟩
        | task definition =>
            obtain ⟨_, same, turn⟩ := sound.begins waits duty
            cases performed.symm.trans same
            cases turn with
            | skipped => exact .inr ⟨rfl, rfl⟩
            | unreadable => exact .inr ⟨rfl, rfl⟩
            | dispatched cleared decoded =>
                exact .inl ⟨place, firing, definition, _, rfl, waits, duty, cleared, decoded⟩
        | work task =>
            rw [duty] at recorded
            exact recorded.elim
      · obtain ⟨workday, worked, rfl⟩ := Option.map_eq_some_iff.mp performed
        obtain ⟨hired, dispatched⟩ := (Workday.perform?_wrought worked).hired
          fun place same => begins ⟨place, same⟩
        exact .inr ⟨dispatched, hired⟩

/-- Where somebody has to lead, nothing is cleared but by an elector that leads with a session
that it has neither lost nor given up. -/
theorem Sound.leads (sound : office.Sound settings attached) (attaches : attached = true)
    (leaderOnly : settings.leaderOnly = true) (cleared : office.Clears settings attached) :
    ∃ lease term, office.career.elector.phase = .leading lease term ∧
      .opened lease ∈ office.career.feats ∧ .lost lease ∉ office.career.feats ∧
      .closing lease ∉ office.career.feats := by
  have leads : office.career.elector.isLeader = true := by
    simpa [Clears, attaches, leaderOnly] using cleared
  obtain ⟨lease, term, leading⟩ := sound.termed.standing.leading leads
  have held : office.career.elector.phase.grip = .held lease := by rw [leading]; rfl
  exact ⟨lease, term, leading, (sound.accounted.accounts.held lease).mp held⟩

/-! What becomes of the tasks. -/

/-- Whenever a worker goes on, the schedule goes on as it would have. -/
def Harmless (office : Office) (worker : Nat) : Prop :=
  ∀ acts later awake, office.follow? acts = some later →
    later.perform? (.day (.wake worker)) = some awake → later.workday.Alike awake.workday

theorem harmless_of_tames {worker : Nat} (tames : office.workday.Tames worker) :
    office.Harmless worker := by
  intro acts later awake followed performed
  have kept : later.workday.Tames worker := by
    apply run_induction ?_ followed tames
    intro act _ before after performed tames
    cases perform?_acted performed with
    | worked wrought => exact tames.wrought wrought
    | elected => exact ⟨tames.spares, tames.hired⟩
  obtain ⟨workday, woken, rfl⟩ := Option.map_eq_some_iff.mp performed
  exact Workday.alike_wake kept.spares woken

variable {left right final : Office}

structure Alike (left right : Office) : Prop where
  workday : left.workday.Alike right.workday
  career : right.career = left.career

theorem Alike.seat (alike : left.Alike right) (career : Career) :
    (left.seat career).Alike (right.seat career) := by
  obtain ⟨⟨⟨registry, crew, journal, same⟩, waiting, dispatched⟩, _⟩ := alike
  refine ⟨⟨⟨registry, crew, journal, ?_⟩, waiting, dispatched⟩, rfl⟩
  simp only [Office.seat, same]

theorem spares_seat (spares : office.workday.Spares) (career : Career) :
    (office.seat career).workday.Spares :=
  ⟨⟨spares.timetable, spares.entries, spares.waiting⟩,
    ⟨spares.replica.registry, spares.replica.crew⟩⟩

theorem Alike.follow? (alike : left.Alike right) (here : left.workday.Spares)
    (there : right.workday.Spares) (followed : left.follow? acts = some last) :
    ∃ final, right.follow? (acts.filter fun act => !act.isWake) = some final ∧
      last.Alike final := by
  induction acts generalizing left right with
  | nil =>
      cases followed
      exact ⟨right, rfl, alike⟩
  | cons act acts ih =>
      obtain ⟨next, performed, rest⟩ := Option.bind_eq_some_iff.mp followed
      cases act with
      | elect incident =>
          obtain ⟨career, happened, rfl⟩ := Option.map_eq_some_iff.mp performed
          have seated : right.perform? (.elect incident) = some (right.seat career) := by
            simp only [perform?, alike.career, happened, Option.map_some]
          obtain ⟨final, ran, ends⟩ := ih (alike.seat career) (spares_seat here career)
            (spares_seat there career) rest
          exact ⟨final, Option.bind_eq_some_iff.mpr ⟨_, seated, ran⟩, ends⟩
      | day doing =>
          obtain ⟨workday, worked, rfl⟩ := Option.map_eq_some_iff.mp performed
          have after := here.wrought (Workday.perform?_wrought worked)
          by_cases wakes : ∃ worker, doing = .wake worker
          · -- Work that goes on is left out, and what it leaves is as it was.
            obtain ⟨worker, rfl⟩ := wakes
            have same : Office.Alike { left with workday } right :=
              ⟨(here.wake worked).symm.trans alike.workday, alike.career⟩
            exact ih same after there rest
          · have asleep (worker : Nat) : doing ≠ .wake worker := fun same => wakes ⟨worker, same⟩
            obtain ⟨other, matched, same⟩ := alike.workday.perform? here there asleep worked
            have quiet : (Act.day doing).isWake = false := by
              cases doing <;> first | rfl | exact absurd rfl (asleep _)
            have both : Office.Alike { left with workday } { right with workday := other } :=
              ⟨same, alike.career⟩
            obtain ⟨final, ran, ends⟩ := ih both after
              (there.wrought (Workday.perform?_wrought matched)) rest
            refine ⟨final, ?_, ends⟩
            rw [List.filter_cons_of_pos (by simp [quiet])]
            exact Option.bind_eq_some_iff.mpr
              ⟨_, Option.map_eq_some_iff.mpr ⟨other, matched, rfl⟩, ran⟩

theorem opening_spares (spares : replica.registry.Spares) :
    (opening replica settings attached candidate election).workday.Spares where
  replica := ⟨spares, by rintro worker member; cases member⟩
  timetable := Timetable.empty_sound
  entries := by
    rintro number work stands
    cases stands
  waiting := by
    rintro firing waits
    cases waits

/-- Whatever the tasks are that leave the schedule alone, and however long they take, the same acts
lead to the same schedule. -/
theorem alike_of_spares (here : replica.registry.Spares) {other : Registry} (there : other.Spares)
    (followed : (opening replica settings attached candidate election).follow? acts = some office) :
    let first := opening { replica with registry := other } settings attached candidate election
    (∃ final, first.follow? (acts.filter fun act => !act.isWake) = some final) ∧
      ∀ others final, first.follow? others = some final →
        (others.filter fun act => !act.isWake) = (acts.filter fun act => !act.isWake) →
        office.workday.Alike final.workday := by
  intro first
  have left : (opening replica settings attached candidate election).workday.Spares :=
    opening_spares here
  have right : first.workday.Spares := opening_spares there
  have start : Alike (opening replica settings attached candidate election) first :=
    ⟨⟨⟨other, {}, replica.journal, rfl⟩, rfl, rfl⟩, rfl⟩
  obtain ⟨quiet, ran, same⟩ := start.follow? left right followed
  refine ⟨⟨quiet, ran⟩, ?_⟩
  intro others final reached kept
  obtain ⟨again, rerun, alike⟩ :=
    Alike.follow? ⟨.refl first.workday, rfl⟩ right right reached
  rw [kept] at rerun
  cases ran.symm.trans rerun
  exact same.workday.trans alike.workday.symm

theorem Recalls.harmless (recalls : Recalls first acts office) {values : List Json}
    {workday : Workday}
    (spares : (office.workday.replica.registry.invoke definition.name values).Spares)
    (dispatches : workday.replica =
      (office.workday.replica.dispatch definition.name values).2) :
    office.workday.replica.Alike workday.replica ∧ ∀ worker,
      (office.workday.replica.dispatch definition.name values).1 = some worker →
        Harmless { office with workday } worker := by
  refine ⟨dispatches ▸ office.workday.replica.alike_dispatch spares, ?_⟩
  intro worker given
  obtain ⟨tame, hired⟩ := Replica.tames_dispatch recalls.crew spares given
  exact harmless_of_tames ⟨dispatches ▸ tame, dispatches ▸ hired⟩

/-- For every elector that a roster may have and whatever it goes through, a task's duty dispatches
what its entry was registered for just when nobody has to lead or the elector leads, and the
arguments can be read. Nothing else dispatches; only an elector that leads, with a session that it
has neither lost nor given up, lets pass what it gates; reloads ask nobody; and the schedule is the
same whatever becomes of tasks that leave it alone. -/
theorem tasks_gated_by_leadership (replica : Replica) (settings : ScheduleSettings)
    (attached : Bool) (candidate : String) (election : Election.Settings) {acts : List Act}
    {office : Office}
    (followed : (opening replica settings attached candidate election).follow? acts = some office) :
    (∀ place firing, office.workday.waiting[place]? = some firing →
      (firing.duty = .reload ∧
        office.perform? (.day (.begin place)) = some { office with workday := { office.workday with
          replica := office.workday.replica.reloadLogged .reloadFailed
          waiting := office.workday.waiting.eraseIdx place } } ∧
        ∀ cluster, ({ office.workday.replica with cluster } : Replica).reloadLogged .reloadFailed =
          { office.workday.replica.reloadLogged .reloadFailed with cluster }) ∨
      ∃ definition workday, firing.duty = .task definition ∧
        (opening replica settings attached candidate election).Registered acts firing.id
          definition ∧
        office.perform? (.day (.begin place)) = some { office with workday } ∧
        Turn (office.Clears settings attached) office.workday place firing.id definition workday ∧
        (workday.dispatched ≠ office.workday.dispatched ↔ office.Clears settings attached ∧
          ∃ values, definition.decodeArguments = .ok values) ∧
        ∀ values, (office.workday.replica.registry.invoke definition.name values).Spares →
          workday.replica = (office.workday.replica.dispatch definition.name values).2 →
          office.workday.replica.Alike workday.replica ∧ ∀ worker,
            (office.workday.replica.dispatch definition.name values).1 = some worker →
              Harmless { office with workday } worker) ∧
    (∀ act next, office.perform? act = some next →
      (∃ place firing definition values, act = .day (.begin place) ∧
        office.workday.waiting[place]? = some firing ∧ firing.duty = .task definition ∧
        office.Clears settings attached ∧ definition.decodeArguments = .ok values) ∨
      next.workday.dispatched = office.workday.dispatched ∧
        next.workday.replica.crew.hired = office.workday.replica.crew.hired) ∧
    (attached = true → settings.leaderOnly = true → office.Clears settings attached →
      ∃ lease term, office.career.elector.phase = .leading lease term ∧
        .opened lease ∈ office.career.feats ∧ .lost lease ∉ office.career.feats ∧
        .closing lease ∉ office.career.feats) ∧
    (replica.registry.Spares → ∀ other : Registry, other.Spares →
      let first := opening { replica with registry := other } settings attached candidate election
      (∃ final, first.follow? (acts.filter fun act => !act.isWake) = some final) ∧
        ∀ others final, first.follow? others = some final →
          (others.filter fun act => !act.isWake) = (acts.filter fun act => !act.isWake) →
          office.workday.Alike final.workday) := by
  have sound := sound_of_follow? followed
  have recalls := recalls_of_follow? followed
  refine ⟨?_, ?_, sound.leads, fun here _ there => alike_of_spares here there followed⟩
  · intro place firing waits
    have recorded := recalls.waiting firing (List.mem_of_getElem? waits)
    cases duty : firing.duty with
    | reload =>
        left
        exact ⟨rfl, begins_reload waits duty, fun cluster => reloadLogged_cluster _ cluster _⟩
    | task definition =>
        right
        rw [duty] at recorded
        obtain ⟨workday, begun, turn⟩ := sound.begins waits duty
        refine ⟨definition, workday, rfl, recorded, begun, turn, turn.dispatches_iff, ?_⟩
        exact fun values spares dispatches => recalls.harmless spares dispatches
    | work =>
        rw [duty] at recorded
        exact recorded.elim
  · exact fun act next performed => sound.dispatches_only recalls performed

/-- A task that runs at every full second. -/
def sweep : Definition :=
  { id := 7, name := "sweep", cron := "* * * * * *", arguments := "[1]", enabled := true }

/-- The elector leads by the time that the entry of the task is fired. -/
def morning : List Act :=
  [.day (.save sweep), .day (.hold "first"), .day (.release "first"), .day (.run 0),
    .elect (.run 0), .elect (.hear 0 (.sessionOpened 1)), .elect (.hear 0 .entered),
    .elect (.hear 0 .won), .elect (.hear 0 .seated), .day (.step 0), .day (.step 0),
    .day (.step 0), .day (.step 0), .day (.wait 1000), .day (.step 0)]

def hasArguments (firing : Firing Duty) : Bool :=
  match firing.duty with
  | .task definition => definition.decodeArguments.toOption.isSome
  | _ => false

theorem leader_dispatches_sweep : ∃ office firing workday,
    (opening {} {} true "left" {}).follow? morning = some office ∧
      office.workday.waiting[0]? = some firing ∧
      office.perform? (.day (.begin 0)) = some { office with workday } ∧
      workday.dispatched ≠ office.workday.dispatched := by
  have evaluated : ((opening {} {} true "left" {}).follow? morning).map (fun office =>
      (office.career.elector.isLeader, office.workday.waiting.head?.any hasArguments)) =
        some (true, true) := by
    decide +kernel
  obtain ⟨office, followed, same⟩ := Option.map_eq_some_iff.mp evaluated
  simp only [Prod.mk.injEq, Option.any_eq_true] at same
  obtain ⟨leads, firing, first, decodes⟩ := same
  have waits : office.workday.waiting[0]? = some firing := by rwa [List.head?_eq_getElem?] at first
  obtain ⟨gated, _⟩ := tasks_gated_by_leadership {} {} true "left" {} followed
  rcases gated 0 firing waits with
    ⟨reload, _⟩ | ⟨definition, workday, duty, _, begun, _, dispatches, _⟩
  · simp [hasArguments, reload] at decodes
  · refine ⟨office, firing, workday, followed, waits, begun, ?_⟩
    refine dispatches.mpr ⟨.inr (.inr leads), ?_⟩
    rw [hasArguments, duty] at decodes
    cases decoded : definition.decodeArguments with
    | error fault => simp [decoded, Except.toOption] at decodes
    | ok values => exact ⟨values, rfl⟩

end Office

end Rota
