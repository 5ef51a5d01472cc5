import Mathlib.Data.List.Induction
import Rota.Proofs.Schedule.Reloading
import Rota.Proofs.Schedule.Standing

/-!
Whole histories of a roster: rounds over lists of definitions, one after another, with the engine
at work between the rounds and between the steps of each. Main statement: a task is registered
exactly when the engine took it in a round since which it has always been enabled, and it runs as
it was defined in the first such round.
-/

namespace Rota.Schedule

/-- One round over definitions that were read under a ticket: what the clock reads when it is a
task's turn, and what has gone on since the turn before. -/
structure Round where
  ticket : Nat
  definitions : List Definition
  clock : TaskId → Wall
  meanwhile : TaskId → List Aside

inductive Episode where
  | aside (aside : Aside)
  | round (round : Round)

namespace Round

def Enables (round : Round) (id : TaskId) : Prop :=
  ∃ definition ∈ round.definitions, definition.id = id ∧ definition.enabled = true

end Round

namespace Roster

variable {σ : Type} (mechanism : Mechanism σ Duty)

namespace Progress

/-- Lets happen what goes on before a task's turn. -/
def await (round : Round) (progress : Progress σ) (id : TaskId) : Progress σ :=
  { progress with roster := (round.meanwhile id).foldl (aside mechanism) progress.roster }

def followAmid (round : Round) (progress : Progress σ) (definition : Definition) : Progress σ :=
  (progress.await mechanism round definition.id).follow mechanism (round.clock definition.id)
    definition

def dropAmid (round : Round) (progress : Progress σ) (id : TaskId) : Progress σ :=
  (progress.await mechanism round id).drop id

end Progress

def followRound (roster : Roster σ) (round : Round) (definitions : List Definition) : Progress σ :=
  definitions.foldl (Progress.followAmid mechanism round)
    { roster := { roster with applied := round.ticket } }

def reconcileAmid (roster : Roster σ) (round : Round) : Progress σ :=
  let followed := roster.followRound mechanism round round.definitions
  let stored := round.definitions.map Definition.id
  let deleted := followed.roster.registeredIds.filter fun id => !stored.contains id
  deleted.foldl (Progress.dropAmid mechanism round) followed

/-- A reload that is not stale is a round that nothing interrupts. -/
theorem applyReload_eq_reconcileAmid (roster : Roster σ) (now : Wall) {ticket : Nat}
    (definitions : List Definition) (fresh : roster.applied ≤ ticket) :
    roster.applyReload mechanism now ticket definitions =
      roster.reconcileAmid mechanism
        { ticket, definitions, clock := fun _ => now, meanwhile := fun _ => [] } := by
  rw [applyReload, if_neg (Nat.not_lt.mpr fresh)]
  rfl

def undergo (roster : Roster σ) : Episode → Roster σ
  | .aside aside => roster.aside mechanism aside
  | .round round => (roster.reconcileAmid mechanism round).roster

def after (roster : Roster σ) (history : List Episode) : Roster σ :=
  history.foldl (undergo mechanism) roster

/-- The roster as a round finds it when it is a task's turn. -/
def atTurn (roster : Roster σ) (round : Round) (id : TaskId) : Roster σ :=
  let reached := roster.followRound mechanism round (round.definitions.takeWhile (·.id != id))
  (reached.await mechanism round id).roster

/-- The engine takes an enabled definition when it is its turn. -/
def Takes (roster : Roster σ) (round : Round) (definition : Definition) : Prop :=
  definition ∈ round.definitions ∧ definition.enabled = true ∧ ∃ added,
    (roster.atTurn mechanism round definition.id).engine.add mechanism
      (round.clock definition.id) definition.name definition.cron (.task definition) = .ok added

/-- What a task may be registered for: the engine took its definition after an earlier part of
the history, and every round since has enabled the task. -/
def Grounds (start : Roster σ) (history earlier : List Episode) (definition : Definition) : Prop :=
  ∃ round later, history = earlier ++ .round round :: later ∧
    (start.after mechanism earlier).Takes mechanism round definition ∧
    ∀ next, .round next ∈ later → next.Enables definition.id

/-- The first of the grounds for a registration, on which the entry is made. -/
structure First (start : Roster σ) (history earlier : List Episode) (definition : Definition) :
    Prop where
  grounds : start.Grounds mechanism history earlier definition
  least : ∀ sooner other, other.id = definition.id →
    start.Grounds mechanism history sooner other → earlier.length ≤ sooner.length

variable {mechanism} {roster start : Roster σ} {round : Round} {definition : Definition}
  {id : TaskId} {standing : Option Definition}

/-! One round. -/

namespace Progress

variable {progress : Progress σ}

theorem keeps_followAmid (keeps : progress.roster.Keeps mechanism id standing) (round : Round)
    (definition : Definition) :
    (progress.followAmid mechanism round definition).roster.Keeps mechanism id
      (if id = definition.id then
        if definition.enabled then
          standing.or (((progress.await mechanism round definition.id).roster.engine.add mechanism
            (round.clock definition.id) definition.name definition.cron
            (.task definition)).toOption.map fun _ => definition)
        else none
      else standing) := by
  have awaited :
      (progress.await mechanism round definition.id).roster.Keeps mechanism id standing :=
    keeps.asides _
  exact keeps_follow awaited _ definition

theorem keeps_foldl_followAmid (keeps : progress.roster.Keeps mechanism id standing)
    (round : Round) {definitions : List Definition}
    (differ : ∀ definition ∈ definitions, definition.id ≠ id) :
    (definitions.foldl (followAmid mechanism round) progress).roster.Keeps mechanism id
      standing := by
  induction definitions generalizing progress with
  | nil => exact keeps
  | cons definition definitions ih =>
      have other : id ≠ definition.id := (differ definition List.mem_cons_self).symm
      have followed := keeps_followAmid keeps round definition
      rw [if_neg other] at followed
      exact ih followed fun later member => differ later (List.mem_cons_of_mem _ member)

theorem keeps_foldl_dropAmid (keeps : progress.roster.Keeps mechanism id standing)
    (round : Round) (ids : List TaskId) :
    (ids.foldl (dropAmid mechanism round) progress).roster.Keeps mechanism id
      (if id ∈ ids then none else standing) := by
  induction ids generalizing progress standing with
  | nil => simpa using keeps
  | cons first ids ih =>
      have awaited : (progress.await mechanism round first).roster.Keeps mechanism id standing :=
        keeps.asides _
      have dropped : (progress.dropAmid mechanism round first).roster.Keeps mechanism id
          (if id = first then none else standing) := keeps_drop awaited first
      have rest := ih dropped
      by_cases same : id = first
      · rw [if_pos same, ite_self] at rest
        rw [if_pos (List.mem_cons.mpr (.inl same))]
        exact rest
      · rw [if_neg same] at rest
        simpa [same] using rest

end Progress

theorem Keeps.begin (keeps : roster.Keeps mechanism id standing) (round : Round) :
    (roster.followRound mechanism round []).roster.Keeps mechanism id standing :=
  ⟨⟨keeps.linked.ascending, keeps.linked.timetable, keeps.linked.stands⟩, keeps.stands⟩

/-- The sweep takes what has no definition in the round, and only that. -/
theorem keeps_reconcileAmid
    (followed : (roster.followRound mechanism round round.definitions).roster.Keeps mechanism id
      standing) :
    (roster.reconcileAmid mechanism round).roster.Keeps mechanism id
      (if id ∈ round.definitions.map Definition.id then standing else none) := by
  have swept := Progress.keeps_foldl_dropAmid followed round
    ((roster.followRound mechanism round round.definitions).roster.registeredIds.filter fun id =>
      !(round.definitions.map Definition.id).contains id)
  by_cases stored : id ∈ round.definitions.map Definition.id
  · rw [if_neg (by simp [stored, -List.mem_map])] at swept
    rw [if_pos stored]
    exact swept
  · rw [if_neg stored]
    cases standing with
    | none =>
        rw [ite_self] at swept
        exact swept
    | some definition =>
        have registered := mem_registeredIds followed.stands.isRegistered
        rw [if_pos (by simp [registered, stored, -List.mem_map])] at swept
        exact swept

theorem Keeps.reconcileAmid_absent (keeps : roster.Keeps mechanism id standing)
    (absent : id ∉ round.definitions.map Definition.id) :
    (roster.reconcileAmid mechanism round).roster.Keeps mechanism id none := by
  have differ : ∀ definition ∈ round.definitions, definition.id ≠ id :=
    fun definition member same => absent (same ▸ List.mem_map_of_mem member)
  have followed := Progress.keeps_foldl_followAmid (keeps.begin round) round differ
  have swept := keeps_reconcileAmid followed
  rw [if_neg absent] at swept
  exact swept

theorem atTurn_of_split {before after : List Definition}
    (split : round.definitions = before ++ definition :: after)
    (apart : ∀ other ∈ before, other.id ≠ definition.id) :
    roster.atTurn mechanism round definition.id =
      ((roster.followRound mechanism round before).await mechanism round definition.id).roster := by
  have reached : round.definitions.takeWhile (·.id != definition.id) = before := by
    rw [split, List.takeWhile_append_of_pos]
    · simp
    · intro other member
      simpa using apart other member
  rw [atTurn, reached]

theorem Keeps.reconcileAmid_offered (keeps : roster.Keeps mechanism definition.id standing)
    (distinct : (round.definitions.map Definition.id).Nodup)
    (offered : definition ∈ round.definitions) :
    (roster.reconcileAmid mechanism round).roster.Keeps mechanism definition.id
      (if definition.enabled then
        standing.or (((roster.atTurn mechanism round definition.id).engine.add mechanism
          (round.clock definition.id) definition.name definition.cron
          (.task definition)).toOption.map fun _ => definition)
      else none) := by
  obtain ⟨before, after, split⟩ := List.append_of_mem offered
  rw [split, List.map_append, List.map_cons, List.nodup_append] at distinct
  obtain ⟨_, rest, apart⟩ := distinct
  have earlier : ∀ other ∈ before, other.id ≠ definition.id := fun other member =>
    apart other.id (List.mem_map_of_mem member) definition.id List.mem_cons_self
  have later : ∀ other ∈ after, other.id ≠ definition.id := by
    intro other member same
    exact (List.nodup_cons.mp rest).1 (same ▸ List.mem_map_of_mem member)
  have followed := Progress.keeps_foldl_followAmid (keeps.begin round) round earlier
  have turned := Progress.keeps_followAmid followed round definition
  rw [if_pos rfl] at turned
  have finished := Progress.keeps_foldl_followAmid turned round later
  have whole : (roster.followRound mechanism round round.definitions) =
      after.foldl (Progress.followAmid mechanism round)
        ((roster.followRound mechanism round before).followAmid mechanism round definition) := by
    rw [split, followRound, List.foldl_append]
    rfl
  have swept := keeps_reconcileAmid (whole ▸ finished)
  rw [if_pos (List.mem_map_of_mem offered)] at swept
  rw [atTurn_of_split split earlier]
  exact swept

/-! Whole histories. -/

theorem after_append (start : Roster σ) (history : List Episode) (episode : Episode) :
    start.after mechanism (history ++ [episode]) =
      (start.after mechanism history).undergo mechanism episode := by
  rw [after, List.foldl_append]
  rfl

theorem grounds_append {history earlier : List Episode} {episode : Episode} :
    start.Grounds mechanism (history ++ [episode]) earlier definition ↔
      (start.Grounds mechanism history earlier definition ∧
        ∀ round, episode = .round round → round.Enables definition.id) ∨
      (earlier = history ∧ ∃ round, episode = .round round ∧
        (start.after mechanism history).Takes mechanism round definition) := by
  constructor
  · rintro ⟨round, later, split, taken, enabled⟩
    rcases List.eq_nil_or_concat later with rfl | ⟨later, last, rfl⟩
    · obtain ⟨rfl, same⟩ := List.append_inj' split rfl
      exact .inr ⟨rfl, round, List.head_eq_of_cons_eq same, taken⟩
    · rw [List.concat_eq_append, ← List.cons_append, ← List.append_assoc] at split
      obtain ⟨rfl, same⟩ := List.append_inj' split rfl
      rw [List.concat_eq_append] at enabled
      left
      refine ⟨⟨round, later, rfl, taken, ?_⟩, ?_⟩
      · intro next member
        exact enabled next (List.mem_append_left _ member)
      · rintro next rfl
        exact enabled next (List.mem_append_right _
          (List.mem_singleton.mpr (List.head_eq_of_cons_eq same)))
  · rintro (⟨⟨round, later, rfl, taken, enabled⟩, last⟩ | ⟨rfl, round, rfl, taken⟩)
    · refine ⟨round, later ++ [episode], by simp, taken, ?_⟩
      intro next member
      rcases List.mem_append.mp member with old | new
      · exact enabled next old
      · exact last next (List.mem_singleton.mp new).symm
    · exact ⟨round, [], rfl, taken, by simp⟩

theorem First.append {history earlier : List Episode} {episode : Episode}
    (first : start.First mechanism history earlier definition)
    (enabled : ∀ round, episode = .round round → round.Enables definition.id) :
    start.First mechanism (history ++ [episode]) earlier definition := by
  refine ⟨grounds_append.mpr (.inl ⟨first.grounds, enabled⟩), ?_⟩
  intro sooner other same grounds
  rcases grounds_append.mp grounds with ⟨old, _⟩ | ⟨rfl, _⟩
  · exact first.least sooner other same old
  · obtain ⟨_, later, split, _⟩ := first.grounds
    rw [split, List.length_append]
    exact Nat.le_add_right _ _

/-- A task that is registered runs by the first of its grounds; one that is not has none. -/
def Follows (mechanism : Mechanism σ Duty) (start : Roster σ) (history : List Episode)
    (id : TaskId) : Option Definition → Prop
  | none => ∀ earlier definition, definition.id = id →
      ¬start.Grounds mechanism history earlier definition
  | some definition => ∃ earlier, start.First mechanism history earlier definition

section

variable {history : List Episode}

theorem Follows.aside (follows : start.Follows mechanism history id standing)
    (same : ∀ definition, standing = some definition → definition.id = id) (act : Aside) :
    start.Follows mechanism (history ++ [.aside act]) id standing := by
  cases standing with
  | none =>
      intro earlier definition wanted grounds
      rcases grounds_append.mp grounds with ⟨old, _⟩ | ⟨_, round, episode, _⟩
      · exact follows earlier definition wanted old
      · cases episode
  | some definition =>
      obtain ⟨earlier, first⟩ := follows
      exact ⟨earlier, first.append (by simp)⟩

theorem follows_unenabled (unenabled : ¬round.Enables id) :
    start.Follows mechanism (history ++ [.round round]) id none := by
  rintro earlier definition rfl grounds
  rcases grounds_append.mp grounds with ⟨_, enabled⟩ | ⟨_, other, same, member, enabled, _⟩
  · exact unenabled (enabled round rfl)
  · cases same
    exact unenabled ⟨definition, member, rfl, enabled⟩

theorem eq_of_id_eq {definitions : List Definition} {one other : Definition}
    (distinct : (definitions.map Definition.id).Nodup) (first : one ∈ definitions)
    (second : other ∈ definitions) (same : one.id = other.id) : one = other := by
  obtain ⟨before, after, rfl⟩ := List.append_of_mem first
  rw [List.map_append, List.map_cons, List.nodup_append] at distinct
  obtain ⟨_, rest, apart⟩ := distinct
  rcases List.mem_append.mp second with earlier | later
  · exact absurd same.symm (apart other.id (List.mem_map_of_mem earlier) _ List.mem_cons_self)
  · rcases List.mem_cons.mp later with rfl | later
    · rfl
    · exact absurd (same ▸ List.mem_map_of_mem later) (List.nodup_cons.mp rest).1

theorem Follows.offered (follows : start.Follows mechanism history definition.id standing)
    (same : ∀ other, standing = some other → other.id = definition.id)
    (distinct : (round.definitions.map Definition.id).Nodup)
    (offered : definition ∈ round.definitions) (enabled : definition.enabled = true) :
    start.Follows mechanism (history ++ [.round round]) definition.id
      (standing.or ((((start.after mechanism history).atTurn mechanism round
        definition.id).engine.add mechanism (round.clock definition.id) definition.name
          definition.cron (.task definition)).toOption.map fun _ => definition)) := by
  have enables : round.Enables definition.id := ⟨definition, offered, rfl, enabled⟩
  cases standing with
  | some other =>
      obtain ⟨earlier, first⟩ := follows
      refine ⟨earlier, first.append ?_⟩
      rintro next episode
      cases episode
      exact same other rfl ▸ enables
  | none =>
      cases taken : ((start.after mechanism history).atTurn mechanism round
          definition.id).engine.add mechanism (round.clock definition.id) definition.name
            definition.cron (.task definition) with
      | error reason =>
          intro earlier other wanted grounds
          rcases grounds_append.mp grounds with
            ⟨old, _⟩ | ⟨_, next, episode, member, _, added, took⟩
          · exact follows earlier other wanted old
          · cases episode
            obtain rfl := eq_of_id_eq distinct member offered wanted
            rw [taken] at took
            cases took
      | ok added =>
          refine ⟨history, grounds_append.mpr
            (.inr ⟨rfl, round, rfl, offered, enabled, added, taken⟩), ?_⟩
          intro sooner other wanted grounds
          rcases grounds_append.mp grounds with ⟨old, _⟩ | ⟨rfl, _⟩
          · exact absurd old (follows sooner other wanted)
          · exact Nat.le_refl _

/-- By induction on the history from its end: one more episode does to the grounds of a task
what it does to its registration. -/
theorem keeps_after (linked : start.Linked mechanism)
    (empty : ∀ id, start.isRegistered id = false)
    (distinct : ∀ round, .round round ∈ history → (round.definitions.map Definition.id).Nodup)
    (id : TaskId) : ∃ standing, (start.after mechanism history).Keeps mechanism id standing ∧
      start.Follows mechanism history id standing := by
  induction history using List.reverseRecOn with
  | nil =>
      refine ⟨none, ⟨linked, empty id⟩, ?_⟩
      rintro earlier definition _ ⟨round, later, split, _⟩
      simp at split
  | append_singleton history episode ih =>
      obtain ⟨standing, keeps, follows⟩ :=
        ih fun round member => distinct round (List.mem_append_left _ member)
      have same (definition : Definition) (stood : standing = some definition) :
          definition.id = id := by
        subst stood
        exact keeps.stands.1
      rw [after_append]
      cases episode with
      | aside act => exact ⟨standing, keeps.aside act, follows.aside same act⟩
      | round round =>
          have apart := distinct round (List.mem_append_right _ List.mem_cons_self)
          by_cases stored : id ∈ round.definitions.map Definition.id
          · obtain ⟨definition, offered, rfl⟩ := List.mem_map.mp stored
            have kept := keeps.reconcileAmid_offered apart offered
            cases enabled : definition.enabled with
            | true =>
                rw [if_pos enabled] at kept
                exact ⟨_, kept, follows.offered same apart offered enabled⟩
            | false =>
                rw [if_neg (by simp [enabled])] at kept
                refine ⟨none, kept, follows_unenabled ?_⟩
                rintro ⟨other, member, wanted, on⟩
                rw [eq_of_id_eq apart member offered wanted, enabled] at on
                cases on
          · refine ⟨none, keeps.reconcileAmid_absent stored, follows_unenabled ?_⟩
            rintro ⟨other, member, wanted, _⟩
            exact stored (wanted ▸ List.mem_map_of_mem member)

theorem First.unique {earlier later : List Episode} {one other : Definition}
    (distinct : ∀ round, .round round ∈ history → (round.definitions.map Definition.id).Nodup)
    (same : one.id = other.id) (first : start.First mechanism history earlier one)
    (second : start.First mechanism history later other) : one = other := by
  have length : earlier.length = later.length :=
    Nat.le_antisymm (first.least later other same.symm second.grounds)
      (second.least earlier one same first.grounds)
  obtain ⟨round, after, split, taken, _⟩ := first.grounds
  obtain ⟨next, rest, sameSplit, tookOther, _⟩ := second.grounds
  rw [split] at sameSplit
  obtain ⟨rfl, tails⟩ := List.append_inj sameSplit length
  cases List.head_eq_of_cons_eq tails
  apply eq_of_id_eq (distinct round ?_) taken.1 tookOther.1 same
  rw [split]
  exact List.mem_append_right _ List.mem_cons_self

/-- After any history of rounds a task is registered if and only if the engine took it in a
round since which it has always been enabled, and the first such round says what it runs by. -/
theorem registered_iff_taken_since {settings : ScheduleSettings} {gated : Bool}
    (distinct : ∀ round, .round round ∈ history → (round.definitions.map Definition.id).Nodup)
    (id : TaskId) :
    let start : Roster σ := { settings, gated }
    ((start.after mechanism history).isRegistered id = true ↔ ∃ earlier definition,
      definition.id = id ∧ start.Grounds mechanism history earlier definition) ∧
    ∀ earlier definition, definition.id = id → start.First mechanism history earlier definition →
      (start.after mechanism history).Runs mechanism definition := by
  intro start
  have linked : start.Linked mechanism := start_linked settings gated
  obtain ⟨standing, keeps, follows⟩ := keeps_after linked (fun _ => rfl) distinct id
  have registered := keeps.stands.isRegistered
  cases standing with
  | none =>
      refine ⟨⟨?_, ?_⟩, ?_⟩
      · intro isRegistered
        rw [registered] at isRegistered
        cases isRegistered
      · rintro ⟨earlier, definition, wanted, grounds⟩
        exact absurd grounds (follows earlier definition wanted)
      · intro earlier definition wanted first
        exact absurd first.grounds (follows earlier definition wanted)
  | some definition =>
      obtain ⟨wanted, runs⟩ := keeps.stands
      obtain ⟨earlier, first⟩ := follows
      refine ⟨⟨?_, fun _ => registered⟩, ?_⟩
      · intro _
        exact ⟨earlier, definition, wanted, first.grounds⟩
      · intro sooner other same firstToo
        rw [First.unique distinct (same.trans wanted.symm) firstToo first]
        exact runs

end

end Roster

def visit (ticket : Nat) (definition : Definition) : Episode :=
  .round { ticket, definitions := [definition], clock := fun _ => 0, meanwhile := fun _ => [] }

/-- A task is refused, then taken, and then edited when the engine has stopped. -/
def rehearsal : List Episode :=
  [visit 1 { sweep with cron := "" }, visit 2 sweep, .aside (.run 0), .aside .dismiss,
    .aside (.step 0 0), .aside (.step 0 0), visit 3 { sweep with arguments := "[1]" }]

theorem rehearsal_runs_first_taken :
    (∀ round, .round round ∈ rehearsal → (round.definitions.map Definition.id).Nodup) ∧
      (({} : Roster Unit).after everySecond rehearsal).engine.stopped = true ∧
      (({} : Roster Unit).after everySecond rehearsal).Runs everySecond sweep := by
  have distinct : ∀ round, .round round ∈ rehearsal →
      (round.definitions.map Definition.id).Nodup := by
    intro round member
    simp only [rehearsal, visit, List.mem_cons, Episode.round.injEq, List.not_mem_nil,
      reduceCtorEq, or_false, false_or] at member
    rcases member with rfl | rfl | rfl <;> simp
  have first : ({} : Roster Unit).First everySecond rehearsal (rehearsal.take 1) sweep := by
    refine ⟨⟨_, rehearsal.drop 2, rfl, ⟨List.mem_cons_self, rfl, _, rfl⟩, ?_⟩, ?_⟩
    · intro round member
      simp only [rehearsal, visit, List.drop, List.mem_cons, Episode.round.injEq,
        List.not_mem_nil, reduceCtorEq, or_false, false_or] at member
      subst member
      exact ⟨_, List.mem_cons_self, rfl, rfl⟩
    · intro sooner other _ grounds
      cases sooner with
      | cons episode sooner => exact Nat.succ_le_succ (Nat.zero_le _)
      | nil =>
          obtain ⟨round, later, split, ⟨member, _, added, taken⟩, _⟩ := grounds
          cases List.head_eq_of_cons_eq split
          rw [List.mem_singleton.mp member] at taken
          cases taken
  exact ⟨distinct, rfl, (Roster.registered_iff_taken_since distinct 1).2 _ _ rfl first⟩

end Rota.Schedule
