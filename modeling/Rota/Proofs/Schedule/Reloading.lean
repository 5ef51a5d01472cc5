import Rota.Proofs.Run
import Rota.Proofs.Schedule.Reconcile
import Rota.Proofs.Schedule.Store
import Rota.Replica

/-!
Reloads that overlap. Each takes a ticket, has its read answered by the store, and is applied,
with writes and the steps of other reloads in between. Main statement: reloads count in the
order in which they were called for, not in that of their reads.
-/

namespace Rota.Schedule

/-- A roster and its store with the reloads under way. -/
structure Reloading (σ : Type) where
  roster : Roster σ := {}
  store : Store := {}
  asking : List Nat := []
  held : List (Nat × Except Error (List Definition)) := []
  /-- What came of the reloads, the latest first. -/
  answers : List (Nat × Except Error Summary) := []

inductive Act (σ : Type) where
  | call
  | read (ticket : Nat)
  | apply (ticket : Nat) (now : Wall)
  | save (definition : Definition)
  | delete (id : TaskId)
  | failReads (count : Nat)
  | initialise (now : Wall)
  /-- Whatever else the engine does. -/
  | turn (engine : Engine σ Duty)

namespace Act

variable {σ : Type}

def enables (id : TaskId) : Act σ → Bool
  | .save definition => definition.id == id && definition.enabled
  | _ => false

def disables (id : TaskId) : Act σ → Bool
  | .save definition => definition.id == id && !definition.enabled
  | .delete other => other == id
  | _ => false

end Act

namespace Reloading

variable {σ : Type} (mechanism : Mechanism σ Duty)

def start (settings : ScheduleSettings) (gated : Bool) : Reloading σ :=
  { roster := { settings, gated } }

def answer (reloading : Reloading σ) (ticket : Nat) (roster : Roster σ)
    (answer : Except Error Summary) : Reloading σ :=
  { reloading with
    roster
    held := reloading.held.filter (·.1 != ticket)
    answers := (ticket, answer) :: reloading.answers }

/-- What comes of an act, if it can be done. An engine that has stopped never goes on. -/
def perform? (reloading : Reloading σ) : Act σ → Option (Reloading σ)
  | .call =>
    let (ticket, roster) := reloading.roster.beginReload
    some { reloading with roster, asking := ticket :: reloading.asking }
  | .read ticket =>
    if ticket ∈ reloading.asking then
      let (read, store) := reloading.store.findAll
      some { reloading with
        store
        asking := reloading.asking.erase ticket
        held := (ticket, read) :: reloading.held }
    else none
  | .apply ticket now =>
    match reloading.held.lookup ticket with
    | none => none
    | some (.error error) => some (reloading.answer ticket reloading.roster (.error error))
    | some (.ok definitions) =>
      let progress := reloading.roster.applyReload mechanism now ticket definitions
      some (reloading.answer ticket progress.roster (.ok progress.summary))
  | .save definition => some { reloading with store := reloading.store.save definition }
  | .delete id => some { reloading with store := (reloading.store.delete id).2 }
  | .failReads count => some { reloading with store := reloading.store.failReads count }
  | .initialise now =>
    match reloading.roster.initialise mechanism now with
    | .ok roster => some { reloading with roster }
    | .error _ => some reloading
  | .turn engine =>
    if reloading.roster.engine.stopped && !engine.stopped then none
    else some { reloading with roster := { reloading.roster with engine } }

def follow? (reloading : Reloading σ) (acts : List (Act σ)) : Option (Reloading σ) :=
  acts.foldlM (perform? mechanism) reloading

variable {mechanism}

theorem follow?_induction {holds : Reloading σ → Prop} {acts : List (Act σ)}
    (kept : ∀ act ∈ acts, ∀ reloading next, reloading.perform? mechanism act = some next →
      holds reloading → holds next)
    {first last : Reloading σ} (followed : first.follow? mechanism acts = some last)
    (initial : holds first) : holds last :=
  run_induction kept followed initial

inductive Outcome (mechanism : Mechanism σ Duty) (reloading : Reloading σ) :
    Act σ → Reloading σ → Prop
  | called : Outcome mechanism reloading .call
      { reloading with
        roster := reloading.roster.beginReload.2
        asking := (reloading.roster.issued + 1) :: reloading.asking }
  | read {ticket} : ticket ∈ reloading.asking → Outcome mechanism reloading (.read ticket)
      { reloading with
        store := reloading.store.findAll.2
        asking := reloading.asking.erase ticket
        held := (ticket, reloading.store.findAll.1) :: reloading.held }
  | failed {ticket now error} : (ticket, .error error) ∈ reloading.held →
      Outcome mechanism reloading (.apply ticket now)
        (reloading.answer ticket reloading.roster (.error error))
  | outdated {ticket now definitions} : (ticket, .ok definitions) ∈ reloading.held →
      ticket < reloading.roster.applied → Outcome mechanism reloading (.apply ticket now)
        (reloading.answer ticket reloading.roster (.ok { stale := true }))
  | applied {ticket now definitions progress} : (ticket, .ok definitions) ∈ reloading.held →
      reloading.roster.applied ≤ ticket →
      { reloading.roster with applied := ticket }.reconcile mechanism now definitions = progress →
      Outcome mechanism reloading (.apply ticket now)
        (reloading.answer ticket progress.roster (.ok progress.summary))
  | saved {definition} : Outcome mechanism reloading (.save definition)
      { reloading with store := reloading.store.save definition }
  | deleted {id} : Outcome mechanism reloading (.delete id)
      { reloading with store := (reloading.store.delete id).2 }
  | failingReads {count} : Outcome mechanism reloading (.failReads count)
      { reloading with store := reloading.store.failReads count }
  | turned {act engine reloadEntry} :
      (reloading.roster.engine.stopped = true → engine.stopped = true) →
      Outcome mechanism reloading act
        { reloading with roster := { reloading.roster with engine, reloadEntry } }

/-- A reload of a replica is a call, a read and an application that nothing comes between. -/
theorem reload_follow? (replica : Replica) :
    ({ roster := replica.roster, store := replica.store } : Reloading _).follow?
      replica.mechanism [.call, .read (replica.roster.issued + 1),
        .apply (replica.roster.issued + 1) replica.wall] =
      some { roster := replica.reload.2.roster, store := replica.reload.2.store,
             answers := [(replica.roster.issued + 1, replica.reload.1)] } := by
  rcases found : replica.store.findAll with ⟨read, store⟩
  simp only [follow?, List.foldlM_cons, List.foldlM_nil, perform?, Roster.beginReload, bind,
    Option.bind_some, pure, List.mem_singleton, if_true, List.erase_cons_head, Replica.reload,
    Replica.readDefinitions, found]
  cases read with
  | error error => simp [Replica.applyDefinitions, answer]
  | ok definitions =>
      simp only [Replica.applyDefinitions, answer, Replica.noteAll, List.lookup_cons_self,
        List.filter_cons, bne_self_eq_false, Bool.false_eq_true, if_false, List.filter_nil]
      rfl

theorem initialise_roster {roster next : Roster σ} {now : Wall}
    (initialised : roster.initialise mechanism now = .ok next) :
    ∃ engine reloadEntry, next = { roster with engine, reloadEntry } ∧
      engine.stopped = roster.engine.stopped := by
  simp only [Roster.initialise, bind, Except.bind, pure, Except.pure] at initialised
  split at initialised
  · cases initialised
    exact ⟨_, _, rfl, rfl⟩
  · split at initialised
    · simp at initialised
    · rename_i added same
      cases initialised
      exact ⟨_, _, rfl, Engine.add_stopped same⟩

theorem mem_of_lookup {α : Type} {held : List (Nat × α)} {ticket : Nat} {value : α}
    (found : held.lookup ticket = some value) : (ticket, value) ∈ held := by
  obtain ⟨before, after, rfl, _⟩ := List.lookup_eq_some_iff.mp found
  exact List.mem_append_right _ List.mem_cons_self

variable {reloading next : Reloading σ} {act : Act σ}

theorem perform?_outcome
    (performed : reloading.perform? mechanism act = some next) :
    Outcome mechanism reloading act next := by
  cases act with
  | call =>
      cases performed
      exact .called
  | read ticket =>
      simp only [perform?, Option.ite_none_right_eq_some] at performed
      obtain ⟨asking, performed⟩ := performed
      cases performed
      exact .read asking
  | apply ticket now =>
      simp only [perform?] at performed
      split at performed
      · simp at performed
      · rename_i error found
        cases performed
        exact .failed (mem_of_lookup found)
      · rename_i definitions found
        simp only [Roster.applyReload] at performed
        split at performed
        · rename_i older
          cases performed
          exact .outdated (mem_of_lookup found) older
        · rename_i newer
          cases performed
          exact .applied (mem_of_lookup found) (Nat.le_of_not_lt newer) rfl
  | save definition =>
      cases performed
      exact .saved
  | delete id =>
      cases performed
      exact .deleted
  | failReads count =>
      cases performed
      exact .failingReads
  | initialise now =>
      simp only [perform?] at performed
      split at performed
      · rename_i roster initialised
        obtain ⟨engine, reloadEntry, rfl, stopped⟩ := initialise_roster initialised
        cases performed
        exact .turned fun already => stopped.trans already
      · cases performed
        exact .turned id
  | turn engine =>
      simp only [perform?, Option.ite_none_left_eq_some] at performed
      obtain ⟨possible, performed⟩ := performed
      cases performed
      refine .turned fun stopped => ?_
      simpa [stopped] using possible

/-- What holds of reloads however they overlap. -/
structure Sound (reloading : Reloading σ) : Prop where
  store : reloading.store.Sound
  entries : Rows.Ascending reloading.roster.entries
  asking : ∀ ticket ∈ reloading.asking, ticket ≤ reloading.roster.issued
  held : ∀ reload ∈ reloading.held, reload.1 ≤ reloading.roster.issued
  applied : reloading.roster.applied ≤ reloading.roster.issued
  answered : ∀ ticket summary, (ticket, .ok summary) ∈ reloading.answers →
    ticket ≤ reloading.roster.applied
  newest : reloading.roster.applied = 0 ∨ ∃ summary,
    (reloading.roster.applied, .ok summary) ∈ reloading.answers ∧ summary.stale = false

theorem start_sound (settings : ScheduleSettings) (gated : Bool) :
    Sound (start settings gated : Reloading σ) where
  store := Store.empty_sound
  entries := Rows.ascending_nil
  asking := by simp [start]
  held := by simp [start]
  applied := Nat.le_refl 0
  answered := by simp [start]
  newest := .inl rfl

theorem Sound.answer (sound : reloading.Sound) {ticket : Nat} {summary : Except Error Summary}
    (reached : ∀ given, summary = .ok given → ticket ≤ reloading.roster.applied) :
    (reloading.answer ticket reloading.roster summary).Sound where
  store := sound.store
  entries := sound.entries
  asking := sound.asking
  held reload member := sound.held reload (List.mem_filter.mp member).1
  applied := sound.applied
  answered other answer member := by
    rcases List.mem_cons.mp member with same | member
    · obtain ⟨rfl, rfl⟩ := Prod.mk.inj same
      exact reached answer rfl
    · exact sound.answered other answer member
  newest := sound.newest.imp_right fun ⟨summary, member, fresh⟩ =>
    ⟨summary, List.mem_cons_of_mem _ member, fresh⟩

theorem Sound.applying (sound : reloading.Sound) {ticket : Nat} {now : Wall}
    {definitions : List Definition} (held : (ticket, .ok definitions) ∈ reloading.held)
    (newer : reloading.roster.applied ≤ ticket) {progress : Roster.Progress σ}
    (reconciled : { reloading.roster with applied := ticket }.reconcile mechanism now definitions =
      progress) :
    (reloading.answer ticket progress.roster (.ok progress.summary)).Sound := by
  have kept := Roster.reconcile_keeps reconciled
  have issued : progress.roster.issued = reloading.roster.issued := kept.issued
  have applied : progress.roster.applied = ticket := kept.applied
  refine ⟨sound.store, kept.ascending sound.entries, ?_, ?_, ?_, ?_, ?_⟩
  · intro other member
    exact issued ▸ sound.asking other member
  · intro reload member
    exact issued ▸ sound.held reload (List.mem_filter.mp member).1
  · change progress.roster.applied ≤ progress.roster.issued
    rw [applied, issued]
    exact sound.held _ held
  · intro other answer member
    change other ≤ progress.roster.applied
    rcases List.mem_cons.mp member with same | member
    · obtain ⟨rfl, _⟩ := Prod.mk.inj same
      exact Nat.le_of_eq applied.symm
    · exact applied ▸ Nat.le_trans (sound.answered other answer member) newer
  · right
    refine ⟨progress.summary, ?_, kept.stale⟩
    change (progress.roster.applied, _) ∈ _
    rw [applied]
    exact List.mem_cons_self

theorem Sound.perform? (sound : reloading.Sound)
    (performed : reloading.perform? mechanism act = some next) : next.Sound := by
  cases perform?_outcome performed with
  -- The new ticket is the only one that reaches the new bound.
  | called =>
      refine ⟨sound.store, sound.entries, ?_, ?_, Nat.le_succ_of_le sound.applied,
        sound.answered, sound.newest⟩
      · intro ticket member
        rcases List.mem_cons.mp member with rfl | member
        · exact Nat.le_refl _
        · exact Nat.le_succ_of_le (sound.asking ticket member)
      · intro reload member
        exact Nat.le_succ_of_le (sound.held reload member)
  | read asking =>
      refine ⟨?_, sound.entries, ?_, ?_, sound.applied, sound.answered, sound.newest⟩
      · constructor <;> rw [Store.findAll_rows]
        · exact sound.store.ascending
        · exact sound.store.keyed
      · intro ticket member
        exact sound.asking ticket (List.mem_of_mem_erase member)
      · intro reload member
        rcases List.mem_cons.mp member with rfl | member
        · exact sound.asking _ asking
        · exact sound.held reload member
  | failed => exact sound.answer (by simp)
  | outdated _ older => exact sound.answer fun _ _ => Nat.le_of_lt older
  | applied held newer reconciled => exact sound.applying held newer reconciled
  | saved => exact { sound with store := sound.store.save }
  | deleted => exact { sound with store := sound.store.delete }
  | failingReads => exact { sound with store := ⟨sound.store.ascending, sound.store.keyed⟩ }
  | turned => exact { sound with }

theorem sound_of_follow? {settings : ScheduleSettings} {gated : Bool} {acts : List (Act σ)}
    (followed : (start settings gated).follow? mechanism acts = some reloading) :
    reloading.Sound :=
  follow?_induction (fun _ _ _ _ performed sound => sound.perform? performed) followed
    (start_sound settings gated)

theorem perform?_counters (performed : reloading.perform? mechanism act = some next) :
    reloading.roster.issued ≤ next.roster.issued ∧
      reloading.roster.applied ≤ next.roster.applied := by
  cases perform?_outcome performed with
  | called => exact ⟨Nat.le_succ _, Nat.le_refl _⟩
  | @applied ticket now definitions progress held newer reconciled =>
      have kept := Roster.reconcile_keeps reconciled
      exact ⟨Nat.le_of_eq kept.issued.symm, Nat.le_trans newer (Nat.le_of_eq kept.applied.symm)⟩
  | _ => exact ⟨Nat.le_refl _, Nat.le_refl _⟩

theorem counters_of_follow? {first last : Reloading σ} {acts : List (Act σ)}
    (followed : first.follow? mechanism acts = some last) :
    first.roster.issued ≤ last.roster.issued ∧ first.roster.applied ≤ last.roster.applied := by
  apply follow?_induction ?_ followed ⟨Nat.le_refl _, Nat.le_refl _⟩
  intro act _ reloading next performed before
  have step := perform?_counters performed
  omega

theorem follow?_append {first middle : Reloading σ} {before : List (Act σ)}
    (followed : first.follow? mechanism before = some middle) (after : List (Act σ)) :
    first.follow? mechanism (before ++ after) = middle.follow? mechanism after := by
  simp only [follow?] at followed
  simp [follow?, List.foldlM_append, followed]

theorem issued_of_call {first last : Reloading σ} {acts : List (Act σ)}
    (followed : first.follow? mechanism (.call :: acts) = some last) :
    first.roster.issued + 1 ≤ last.roster.issued := by
  simp only [follow?, List.foldlM_cons, perform?, bind, Option.bind_some] at followed
  exact (counters_of_follow? followed).1

theorem perform?_stopped (performed : reloading.perform? mechanism act = some next)
    (stopped : reloading.roster.engine.stopped = true) : next.roster.engine.stopped = true := by
  cases perform?_outcome performed with
  | @applied ticket now definitions progress held newer reconciled =>
      have kept := Roster.reconcile_keeps reconciled
      exact kept.stopped.trans stopped
  | turned keeps => exact keeps stopped
  | _ => exact stopped

/-- A reload that was called for before another one that has been applied changes nothing. -/
theorem outdated_reload_discarded {settings : ScheduleSettings} {gated : Bool}
    {earlier between later : List (Act σ)} {before asked reloading : Reloading σ}
    {fresh : Summary} {definitions : List Definition} (now : Wall)
    (called : (start settings gated).follow? mechanism earlier = some before)
    (overtaken : before.follow? mechanism (.call :: between) = some asked)
    (followed : asked.follow? mechanism (.call :: later) = some reloading)
    (answered : (asked.roster.issued + 1, .ok fresh) ∈ reloading.answers)
    (held : reloading.held.lookup (before.roster.issued + 1) = some (.ok definitions)) :
    reloading.perform? mechanism (.apply (before.roster.issued + 1) now) =
      some (reloading.answer (before.roster.issued + 1) reloading.roster
        (.ok { stale := true })) := by
  have asking := follow?_append called (.call :: between)
  rw [overtaken] at asking
  have run := follow?_append asking (.call :: later)
  rw [followed] at run
  have applied := (sound_of_follow? run).answered _ _ answered
  have issued := issued_of_call overtaken
  have older : before.roster.issued + 1 < reloading.roster.applied := by omega
  simp [perform?, held, Roster.applyReload, older]

/-- A reload is discarded for no other reason. -/
theorem Sound.overtaken (sound : reloading.Sound) {ticket : Nat} {now : Wall} {summary : Summary}
    (performed : reloading.perform? mechanism (.apply ticket now) = some next)
    (answered : next.answers = (ticket, .ok summary) :: reloading.answers)
    (stale : summary.stale = true) :
    ∃ later fresh, (later, .ok fresh) ∈ reloading.answers ∧ fresh.stale = false ∧
      ticket < later := by
  cases perform?_outcome performed with
  | failed => simp [Reloading.answer] at answered
  | outdated _ older =>
      rcases sound.newest with never | ⟨fresh, member, counted⟩
      · simp [never] at older
      · exact ⟨_, fresh, member, counted, older⟩
  | @applied _ _ definitions progress _ _ reconciled =>
      have kept := Roster.reconcile_keeps reconciled
      have same : progress.summary = summary := by
        simpa [Reloading.answer] using answered
      exact absurd (kept.stale.symm.trans (same ▸ stale)) (by simp)
  | turned => simp at answered

end Reloading

def everySecond : Mechanism Unit Duty where
  read expression := if expression = "" then .error "empty" else .ok ()
  next _ now := .ok (now / 1000 * 1000 + 1000)
  breaks := Duty.breaks

def sweep : Definition :=
  { id := 1, name := "sweep", cron := "* * * * * *", arguments := "[]", enabled := true }

def paused : Definition := { sweep with enabled := false }

theorem overtaken_reload_discarded :
    ∃ reloading, (Reloading.start {} false).follow? everySecond
        [.save sweep, .call, .read 1, .save paused, .call, .read 2, .apply 2 0] = some reloading ∧
      reloading.perform? everySecond (.apply 1 0) =
        some (reloading.answer 1 reloading.roster (.ok { stale := true })) := by
  refine ⟨_, rfl, ?_⟩
  exact Reloading.outdated_reload_discarded 0
    (show (Reloading.start {} false).follow? everySecond [.save sweep] = some _ from rfl)
    (show Reloading.follow? everySecond _ [.call, .read 1, .save paused] = some _ from rfl)
    (show Reloading.follow? everySecond _ [.call, .read 2, .apply 2 0] = some _ from rfl)
    (List.Mem.head _) rfl

/-- Two reloads of which the second reads first, and a write between their reads. -/
def crossing : List (Act Unit) :=
  [.save sweep, .call, .call, .read 2, .save paused, .read 1, .apply 1 0, .apply 2 0]

/-- The order of the reads does not count: what was read before the write is applied over what
was read after it. -/
theorem crossing_applies_older_snapshot :
    ((Reloading.start {} false).follow? everySecond crossing).map
      (fun reloading => (reloading.answers, reloading.roster.isRegistered 1)) =
        some ([(2, .ok { registered := 1 }), (1, .ok {})], true) := by
  rfl

end Rota.Schedule
