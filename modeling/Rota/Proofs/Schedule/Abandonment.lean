import Mathlib.Logic.Function.Basic
import Rota.Proofs.Schedule.Accounting

/-!
Reloads that come to nothing: their read fails, or they are given up before it is applied. Main
statement: they leave no trace, and everything else comes out as if they had never been called for,
though each of them has taken a ticket.
-/

namespace Rota.Schedule

/-- A reload that has been called for, with what it has read. -/
structure Reload where
  ticket : Nat
  read : Option (Except Error (List Definition)) := none

/-- A roster with the reloads that are under way, by the names of their calls. -/
structure Flights (σ : Type) where
  roster : Roster σ := {}
  reloads : Nat → Option Reload := fun _ => none
  /-- What came of the reloads, the latest first. -/
  answers : List (Nat × Except Error Summary) := []

inductive Event where
  | call (name : Nat)
  /-- The store answers. -/
  | read (name : Nat) (answer : Except Error (List Definition))
  /-- The reload goes on with what it has read, with asides in between. -/
  | finish (name : Nat) (clock : TaskId → Wall) (meanwhile : TaskId → List Aside)
  | abandon (name : Nat)
  | aside (aside : Aside)

def Event.name? : Event → Option Nat
  | .call name => some name
  | .read name _ => some name
  | .finish name _ _ => some name
  | .abandon name => some name
  | .aside _ => none

namespace Roster

variable {σ : Type} (mechanism : Mechanism σ Duty)

/-- Applies definitions that were read under a ticket, in the midst of what the engine does. -/
def applyAmid (roster : Roster σ) (round : Round) : Progress σ :=
  if round.ticket < roster.applied then { roster, summary := { stale := true } }
  else roster.reconcileAmid mechanism round

theorem applyAmid_atOnce (roster : Roster σ) (now : Wall) (ticket : Nat)
    (definitions : List Definition) :
    roster.applyAmid mechanism (.atOnce ticket now definitions) =
      roster.applyReload mechanism now ticket definitions := by
  by_cases older : ticket < roster.applied
  · simp [applyAmid, applyReload, Round.atOnce, older]
  · rw [applyReload_eq_reconcileAmid mechanism roster now definitions (Nat.le_of_not_lt older)]
    exact if_neg older

/-- The roster with other numbers of its tickets. -/
def stamp (roster : Roster σ) (issued applied : Nat) : Roster σ := { roster with issued, applied }

def Progress.stamp (progress : Progress σ) (issued applied : Nat) : Progress σ :=
  { progress with roster := progress.roster.stamp issued applied }

variable {mechanism} {roster : Roster σ} {progress : Progress σ} {issued applied : Nat}

theorem initialise_stamp (now : Wall) : (roster.stamp issued applied).initialise mechanism now =
    (roster.initialise mechanism now).map (·.stamp issued applied) := by
  cases present : roster.reloadEntry.isSome with
  | true => simp [initialise, stamp, present, pure, Except.pure, Except.map]
  | false =>
      cases added :
          roster.engine.add mechanism now reloadName roster.settings.reloadCron .reload <;>
        simp [initialise, stamp, present, added, bind, Except.bind, pure, Except.pure, Except.map]

theorem aside_stamp (act : Aside) : (roster.stamp issued applied).aside mechanism act =
    (roster.aside mechanism act).stamp issued applied := by
  cases act with
  | initialise now =>
      simp only [aside, initialise_stamp]
      cases roster.initialise mechanism now <;> rfl
  | run loop => rfl
  | dismiss => rfl
  | step loop now =>
      simp only [aside, stamp]
      split <;> rfl

theorem asides_stamp (acts : List Aside) :
    acts.foldl (aside mechanism) (roster.stamp issued applied) =
      (acts.foldl (aside mechanism) roster).stamp issued applied := by
  induction acts generalizing roster with
  | nil => rfl
  | cons act acts ih => rw [List.foldl_cons, aside_stamp, ih, List.foldl_cons]

theorem unregister_stamp (id : TaskId) : (roster.stamp issued applied).unregister id =
    ((roster.unregister id).1, (roster.unregister id).2.stamp issued applied) := by
  cases found : Rows.find? id roster.entries <;> simp [unregister, stamp, found]

theorem register_stamp (now : Wall) (definition : Definition) :
    (roster.stamp issued applied).register mechanism now definition =
      (roster.register mechanism now definition).map fun done =>
        (done.1, done.2.stamp issued applied) := by
  cases registered : (Rows.find? definition.id roster.entries).isSome with
  | true => simp [register, isRegistered, stamp, registered, pure, Except.pure, Except.map]
  | false =>
      cases added : roster.engine.add mechanism now definition.name definition.cron
          (.task definition) <;>
        simp [register, isRegistered, stamp, registered, added, bind, Except.bind, pure,
          Except.pure, Except.map]

namespace Progress

theorem drop_stamp (id : TaskId) :
    (progress.stamp issued applied).drop id = (progress.drop id).stamp issued applied := by
  simp only [drop, stamp, unregister_stamp]

theorem follow_stamp (now : Wall) (definition : Definition) :
    (progress.stamp issued applied).follow mechanism now definition =
      (progress.follow mechanism now definition).stamp issued applied := by
  cases enabled : definition.enabled with
  | false => simp [follow, enabled, drop_stamp]
  | true =>
      cases outcome : progress.roster.register mechanism now definition with
      | error error => simp [follow, enabled, stamp, register_stamp, outcome, Except.map]
      | ok done =>
          obtain ⟨added, roster⟩ := done
          cases added <;> simp [follow, enabled, stamp, register_stamp, outcome, Except.map]

theorem foldl_stamp {α : Type} {step : Progress σ → α → Progress σ}
    (kept : ∀ progress item, step (stamp progress issued applied) item =
      (step progress item).stamp issued applied) (items : List α) (progress : Progress σ) :
    items.foldl step (progress.stamp issued applied) =
      (items.foldl step progress).stamp issued applied := by
  induction items generalizing progress with
  | nil => rfl
  | cons item items ih => rw [List.foldl_cons, kept, ih, List.foldl_cons]

theorem await_stamp (round : Round) (id : TaskId) :
    (progress.stamp issued applied).await mechanism round id =
      (progress.await mechanism round id).stamp issued applied := by
  simp only [await, stamp, asides_stamp]

end Progress

/-- A pass comes out the same whatever the tickets are. -/
theorem reconcileAmid_stamp (round : Round) (ticket : Nat) :
    (roster.stamp issued applied).reconcileAmid mechanism { round with ticket } =
      (roster.reconcileAmid mechanism round).stamp issued ticket := by
  have followed : (roster.stamp issued applied).followRound mechanism { round with ticket }
      round.definitions = (roster.followRound mechanism round round.definitions).stamp issued
        ticket := by
    refine Progress.foldl_stamp (fun progress definition => ?_) _
      { roster := { roster with applied := round.ticket } }
    exact (congrArg (Progress.follow mechanism _ · definition) (Progress.await_stamp round _)).trans
      (Progress.follow_stamp _ definition)
  simp only [reconcileAmid, followed]
  refine Progress.foldl_stamp (fun progress id => ?_) _ _
  exact (congrArg (Progress.drop · id) (Progress.await_stamp round id)).trans
    (Progress.drop_stamp id)

theorem reconcileAmid_issued (roster : Roster σ) (round : Round) :
    (roster.reconcileAmid mechanism round).roster.issued = roster.issued :=
  congrArg (·.roster.issued) (@reconcileAmid_stamp _ mechanism roster roster.issued
    roster.applied round round.ticket)

theorem reconcileAmid_applied (roster : Roster σ) (round : Round) :
    (roster.reconcileAmid mechanism round).roster.applied = round.ticket :=
  congrArg (·.roster.applied) (@reconcileAmid_stamp _ mechanism roster roster.issued
    roster.applied round round.ticket)

theorem aside_issued (roster : Roster σ) (act : Aside) :
    (roster.aside mechanism act).issued = roster.issued := by
  have same := congrArg Roster.issued
    (@aside_stamp _ mechanism roster roster.issued roster.applied act)
  exact same

theorem aside_applied (roster : Roster σ) (act : Aside) :
    (roster.aside mechanism act).applied = roster.applied := by
  have same := congrArg Roster.applied
    (@aside_stamp _ mechanism roster roster.issued roster.applied act)
  exact same

end Roster

namespace Flights

variable {σ : Type} (mechanism : Mechanism σ Duty)

def start (settings : ScheduleSettings) (gated : Bool) : Flights σ :=
  { roster := { settings, gated } }

def answer (flights : Flights σ) (name : Nat) (roster : Roster σ)
    (answer : Except Error Summary) : Flights σ :=
  { roster, reloads := Function.update flights.reloads name none
    answers := (name, answer) :: flights.answers }

def perform? (flights : Flights σ) : Event → Option (Flights σ)
  | .call name =>
    match flights.reloads name with
    | some _ => none
    | none =>
      let (ticket, roster) := flights.roster.beginReload
      let reloads := Function.update flights.reloads name (some { ticket })
      some { flights with roster, reloads }
  | .read name answer =>
    match flights.reloads name with
    | some { ticket, read := none } =>
      let reloads := Function.update flights.reloads name (some { ticket, read := some answer })
      some { flights with reloads }
    | _ => none
  | .finish name clock meanwhile =>
    match flights.reloads name with
    | some { read := some (.error error), .. } =>
      some (flights.answer name flights.roster (.error error))
    | some { ticket, read := some (.ok definitions) } =>
      let progress :=
        flights.roster.applyAmid mechanism { ticket, definitions, clock, meanwhile }
      some (flights.answer name progress.roster (.ok progress.summary))
    | _ => none
  | .abandon name => some { flights with reloads := Function.update flights.reloads name none }
  | .aside act => some { flights with roster := flights.roster.aside mechanism act }

def follow? (flights : Flights σ) (events : List Event) : Option (Flights σ) :=
  events.foldlM (perform? mechanism) flights

/-- A reload of a replica is a call, a read and an end that nothing comes between. -/
theorem reload_flies (replica : Replica) (name : Nat) :
    ({ roster := replica.roster } : Flights _).follow? replica.mechanism
        [.call name, .read name replica.store.findAll.1,
          .finish name (fun _ => replica.wall) fun _ => []] =
      some { roster := replica.reload.2.roster, answers := [(name, replica.reload.1)] } := by
  have freed (reload : Reload) :
      Function.update (Function.update (fun _ => none) name (some reload)) name none =
        fun _ => none := by
    rw [Function.update_idem]
    exact Function.update_eq_self name fun _ => none
  rcases found : replica.store.findAll with ⟨read, store⟩
  cases read with
  | error error =>
      simp [follow?, perform?, answer, Roster.beginReload, Replica.reload,
        Replica.readDefinitions, Replica.applyDefinitions, found, freed]
  | ok definitions =>
      have applied := Roster.applyAmid_atOnce replica.mechanism replica.roster.beginReload.2
        replica.wall (replica.roster.issued + 1) definitions
      simp only [Roster.beginReload, Round.atOnce] at applied
      simp [follow?, perform?, answer, Roster.beginReload, Replica.reload,
        Replica.readDefinitions, Replica.applyDefinitions, Replica.noteAll, found, freed, applied]
      exact ⟨rfl, rfl⟩

/-- What an event does. -/
inductive Flown (mechanism : Mechanism σ Duty) (flights : Flights σ) : Event → Flights σ → Prop
  | called {name} : flights.reloads name = none → Flown mechanism flights (.call name)
      { flights with
        roster := flights.roster.stamp (flights.roster.issued + 1) flights.roster.applied
        reloads := Function.update flights.reloads name
          (some { ticket := flights.roster.issued + 1 }) }
  | read {name answer ticket} : flights.reloads name = some { ticket } →
      Flown mechanism flights (.read name answer)
        { flights with
          reloads := Function.update flights.reloads name (some { ticket, read := some answer }) }
  | failed {name clock meanwhile ticket error} :
      flights.reloads name = some { ticket, read := some (.error error) } →
      Flown mechanism flights (.finish name clock meanwhile)
        (flights.answer name flights.roster (.error error))
  | applied {name clock meanwhile ticket definitions progress} :
      flights.reloads name = some { ticket, read := some (.ok definitions) } →
      flights.roster.applyAmid mechanism { ticket, definitions, clock, meanwhile } = progress →
      Flown mechanism flights (.finish name clock meanwhile)
        (flights.answer name progress.roster (.ok progress.summary))
  | abandoned {name} : Flown mechanism flights (.abandon name)
      { flights with reloads := Function.update flights.reloads name none }
  | aside {act} : Flown mechanism flights (.aside act)
      { flights with roster := flights.roster.aside mechanism act }

variable {mechanism} {flights next whole other : Flights σ} {event : Event} {events : List Event}
  {lost : Nat → Bool} {kept : List Nat}

theorem perform?_flown (performed : flights.perform? mechanism event = some next) :
    Flown mechanism flights event next := by
  cases event with
  | call name =>
      simp only [perform?] at performed
      split at performed
      · cases performed
      · rename_i free
        cases performed
        exact .called free
  | read name answer =>
      simp only [perform?] at performed
      split at performed
      · rename_i asking
        cases performed
        exact .read asking
      · cases performed
  | finish name clock meanwhile =>
      simp only [perform?] at performed
      split at performed
      · rename_i held
        cases performed
        exact .failed held
      · rename_i held
        cases performed
        exact .applied held rfl
      · cases performed
  | abandon name =>
      cases performed
      exact .abandoned
  | aside act =>
      cases performed
      exact .aside

/-- What the reloads under way have read was answered to their names. -/
def Answered (events : List Event) (flights : Flights σ) : Prop :=
  ∀ name reload answer, flights.reloads name = some reload → reload.read = some answer →
    .read name answer ∈ events

theorem Answered.update {reload : Option Reload} {name : Nat} (answered : flights.Answered events)
    (reloads : next.reloads = Function.update flights.reloads name reload)
    (fresh : ∀ answer, reload.bind Reload.read = some answer → .read name answer ∈ events) :
    next.Answered events := by
  intro named given answer flying held
  rw [reloads] at flying
  by_cases same : named = name
  · subst same
    rw [Function.update_self] at flying
    exact fresh answer (by rw [flying, Option.bind_some, held])
  · rw [Function.update_of_ne same] at flying
    exact answered named given answer flying held

theorem answered_of_follow? {settings : ScheduleSettings} {gated : Bool}
    (followed : (start settings gated).follow? mechanism events = some flights) :
    flights.Answered events := by
  refine run_induction ?_ followed (by simp [Answered, start])
  intro event member flights next performed answered
  cases perform?_flown performed with
  | called => exact answered.update rfl (by simp)
  | read => exact answered.update rfl (by rintro _ ⟨⟩; exact member)
  | failed => exact answered.update rfl (by simp)
  | applied => exact answered.update rfl (by simp)
  | abandoned => exact answered.update rfl (by simp)
  | aside => exact answered

/-! Tickets are compared and nothing else, so their ranks among those that count do as well. -/

def rank (kept : List Nat) (ticket : Nat) : Nat := kept.countP (· ≤ ticket)

theorem rank_le {ticket later : Nat} (before : ticket ≤ later) :
    rank kept ticket ≤ rank kept later := by
  refine List.countP_mono_left fun one _ below => ?_
  simp only [decide_eq_true_eq] at below ⊢
  omega

theorem rank_lt {ticket later : Nat} (counts : later ∈ kept) (before : ticket < later) :
    rank kept ticket < rank kept later := by
  obtain ⟨others, rest, rfl⟩ := List.append_of_mem counts
  have left : rank others ticket ≤ rank others later := rank_le (Nat.le_of_lt before)
  have right : rank rest ticket ≤ rank rest later := rank_le (Nat.le_of_lt before)
  simp only [rank] at left right ⊢
  simp only [List.countP_append, List.countP_cons, decide_eq_true_eq, Nat.le_refl, if_true,
    Nat.not_le.mpr before, if_false]
  omega

theorem rank_cons {ticket last : Nat} (before : ticket ≤ last) :
    rank ((last + 1) :: kept) ticket = rank kept ticket := by
  have newer : ¬last + 1 ≤ ticket := by omega
  simp [rank, newer]

theorem rank_of_bounded {last ticket : Nat} (bounded : ∀ other ∈ kept, other ≤ last)
    (beyond : last ≤ ticket) : rank kept ticket = kept.length := by
  refine List.countP_eq_length.mpr fun other member => ?_
  simpa using Nat.le_trans (bounded other member) beyond

/-- Two runs of which the one has lost reloads more. -/
structure Alike (lost : Nat → Bool) (kept : List Nat) (whole other : Flights σ) : Prop where
  roster : other.roster =
    whole.roster.stamp (rank kept whole.roster.issued) (rank kept whole.roster.applied)
  reloads : ∀ name, other.reloads name = if lost name then none else
    (whole.reloads name).map fun reload => { reload with ticket := rank kept reload.ticket }
  answers : other.answers = whole.answers.filter fun answer => !lost answer.1
  bounded : ∀ ticket ∈ kept, ticket ≤ whole.roster.issued
  applied : whole.roster.applied = 0 ∨ whole.roster.applied ∈ kept
  flying : ∀ name reload, lost name = false → whole.reloads name = some reload →
    reload.ticket ∈ kept

theorem start_alike (lost : Nat → Bool) (settings : ScheduleSettings) (gated : Bool) :
    Alike lost [] (start settings gated : Flights σ) (start settings gated) where
  roster := rfl
  reloads := by simp [start]
  answers := rfl
  bounded := by simp
  applied := .inl rfl
  flying := by simp [start]

namespace Alike

theorem applied_le (alike : Alike lost kept whole other) :
    whole.roster.applied ≤ whole.roster.issued := by
  rcases alike.applied with never | counts
  · omega
  · exact alike.bounded _ counts

/-- A reload that counts is as stale in the one run as in the other. -/
theorem stale_iff (alike : Alike lost kept whole other) {ticket : Nat} :
    rank kept ticket < other.roster.applied ↔ ticket < whole.roster.applied := by
  have same : other.roster.applied = rank kept whole.roster.applied :=
    congrArg Roster.applied alike.roster
  rw [same]
  constructor
  · intro below
    by_contra newer
    have above : rank kept whole.roster.applied ≤ rank kept ticket := rank_le (by omega)
    omega
  · intro older
    rcases alike.applied with never | appliedCounts
    · omega
    · exact rank_lt appliedCounts older

theorem reloads_update (alike : Alike lost kept whole other) {name : Nat} {reload : Option Reload}
    (updated : next.reloads = Function.update whole.reloads name reload) (named : Nat) :
    Function.update other.reloads name (if lost name then none else
        reload.map fun reload => { reload with ticket := rank kept reload.ticket }) named =
      if lost named then none else
        (next.reloads named).map fun reload =>
          { reload with ticket := rank kept reload.ticket } := by
  by_cases same : named = name
  · subst same
    rw [updated, Function.update_self, Function.update_self]
  · rw [updated, Function.update_of_ne same, Function.update_of_ne same]
    exact alike.reloads named

theorem flying_update (alike : Alike lost kept whole other) {name : Nat} {reload : Option Reload}
    (updated : next.reloads = Function.update whole.reloads name reload)
    (fresh : lost name = false → ∀ given, reload = some given → given.ticket ∈ kept)
    (named : Nat) (given : Reload) (counts : lost named = false)
    (there : next.reloads named = some given) : given.ticket ∈ kept := by
  rw [updated] at there
  by_cases same : named = name
  · subst same
    rw [Function.update_self] at there
    exact fresh counts given there
  · rw [Function.update_of_ne same] at there
    exact alike.flying named given counts there

/-- What happens to a lost reload that does not apply anything. -/
theorem lose (alike : Alike lost kept whole other) (flown : Flown mechanism whole event next)
    {name : Nat} (named : event.name? = some name) (isLost : lost name = true)
    (harmless : ∀ ticket definitions,
      whole.reloads name = some { ticket, read := some (.ok definitions) } →
        ∀ clock meanwhile, event ≠ .finish name clock meanwhile) :
    Alike lost kept next other := by
  have absent : other.reloads name = none := by rw [alike.reloads, isLost, if_pos rfl]
  have reloads {reload : Option Reload}
      (updated : next.reloads = Function.update whole.reloads name reload) (named : Nat) :
      other.reloads named = if lost named then none else
        (next.reloads named).map fun reload =>
          { reload with ticket := rank kept reload.ticket } := by
    rw [← alike.reloads_update updated named, isLost, if_pos rfl, ← absent,
      Function.update_eq_self]
  have flying {reload : Option Reload}
      (updated : next.reloads = Function.update whole.reloads name reload) :=
    alike.flying_update updated fun counts => absurd (isLost.symm.trans counts) (by simp)
  cases flown with
  | called =>
      cases named
      refine ⟨?_, reloads rfl, alike.answers, ?_, alike.applied, flying rfl⟩
      · have same : rank kept (whole.roster.issued + 1) = rank kept whole.roster.issued := by
          rw [rank_of_bounded alike.bounded (Nat.le_succ _),
            rank_of_bounded alike.bounded (Nat.le_refl _)]
        exact alike.roster.trans (congrArg (whole.roster.stamp · _) same.symm)
      · exact fun ticket member => Nat.le_succ_of_le (alike.bounded ticket member)
  | read =>
      cases named
      exact ⟨alike.roster, reloads rfl, alike.answers, alike.bounded, alike.applied, flying rfl⟩
  | failed =>
      cases named
      refine ⟨alike.roster, reloads rfl, ?_, alike.bounded, alike.applied, flying rfl⟩
      simpa [answer, isLost] using alike.answers
  | applied held =>
      cases named
      exact absurd rfl (harmless _ _ held _ _)
  | abandoned =>
      cases named
      exact ⟨alike.roster, reloads rfl, alike.answers, alike.bounded, alike.applied, flying rfl⟩
  | aside => cases named

theorem call (alike : Alike lost kept whole other) {name : Nat} (counts : lost name = false)
    (free : whole.reloads name = none) :
    ∃ otherNext, other.perform? mechanism (.call name) = some otherNext ∧
      Alike lost ((whole.roster.issued + 1) :: kept)
        { whole with
          roster := whole.roster.stamp (whole.roster.issued + 1) whole.roster.applied
          reloads := Function.update whole.reloads name
            (some { ticket := whole.roster.issued + 1 }) } otherNext := by
  have freeToo : other.reloads name = none := by simp [alike.reloads, counts, free]
  have bounded : ∀ ticket ∈ (whole.roster.issued + 1) :: kept,
      ticket ≤ whole.roster.issued + 1 := by
    intro ticket member
    rcases List.mem_cons.mp member with rfl | old
    · exact Nat.le_refl _
    · exact Nat.le_succ_of_le (alike.bounded ticket old)
  have issued : rank ((whole.roster.issued + 1) :: kept) (whole.roster.issued + 1) =
      rank kept whole.roster.issued + 1 := by
    rw [rank_of_bounded bounded (Nat.le_refl _), rank_of_bounded alike.bounded (Nat.le_refl _)]
    rfl
  have applied : rank ((whole.roster.issued + 1) :: kept) whole.roster.applied =
      rank kept whole.roster.applied := rank_cons alike.applied_le
  have ticket : other.roster.issued + 1 =
      rank ((whole.roster.issued + 1) :: kept) (whole.roster.issued + 1) := by
    rw [issued, alike.roster]
    rfl
  refine ⟨{ other with
      roster := other.roster.beginReload.2
      reloads := Function.update other.reloads name (some { ticket := other.roster.issued + 1 }) },
    by simp only [perform?, freeToo]; rfl, ?_, ?_, alike.answers, bounded, ?_, ?_⟩
  · simp only [Roster.beginReload, Roster.stamp, issued, applied, alike.roster]
  · intro named
    by_cases same : named = name
    · subst same
      simp [counts, ticket]
    · dsimp only
      rw [Function.update_of_ne same, Function.update_of_ne same, alike.reloads]
      cases isLost : lost named with
      | true => rfl
      | false =>
          cases there : whole.reloads named with
          | none => rfl
          | some reload =>
              -- The ticket is older than the new one, which leaves its rank as it is.
              have old := alike.bounded _ (alike.flying named reload isLost there)
              simp [rank_cons old]
  · exact alike.applied.imp_right (List.mem_cons_of_mem _)
  · intro named reload isLost there
    by_cases same : named = name
    · subst same
      simp only [Function.update_self, Option.some.injEq] at there
      subst there
      exact List.mem_cons_self
    · simp only [Function.update_of_ne same] at there
      exact List.mem_cons_of_mem _ (alike.flying named reload isLost there)

theorem there (alike : Alike lost kept whole other) {name ticket : Nat}
    {read : Option (Except Error (List Definition))} (counts : lost name = false)
    (flying : whole.reloads name = some { ticket, read }) :
    other.reloads name = some { ticket := rank kept ticket, read } := by
  simp [alike.reloads, counts, flying]

theorem finish (alike : Alike lost kept whole other) {name : Nat} (counts : lost name = false)
    {roster rosterToo : Roster σ} (answer : Except Error Summary)
    (same : rosterToo = roster.stamp (rank kept roster.issued) (rank kept roster.applied))
    (issued : roster.issued = whole.roster.issued)
    (applied : roster.applied = 0 ∨ roster.applied ∈ kept) :
    Alike lost kept (whole.answer name roster answer) (other.answer name rosterToo answer) where
  roster := same
  reloads named := by
    have updated := alike.reloads_update
      (show (whole.answer name roster answer).reloads = Function.update whole.reloads name none
        from rfl) named
    simp only [counts, Bool.false_eq_true, if_false, Option.map_none] at updated
    exact updated
  answers := by simpa [Flights.answer, counts] using alike.answers
  bounded ticket member := issued ▸ alike.bounded ticket member
  applied := applied
  flying := alike.flying_update rfl (by simp)

/-- What a reload that counts applies comes out the same in both runs. -/
theorem applyAmid (alike : Alike lost kept whole other) {ticket : Nat} (counts : ticket ∈ kept)
    (definitions : List Definition) (clock : TaskId → Wall) (meanwhile : TaskId → List Aside) :
    let progress := whole.roster.applyAmid mechanism { ticket, definitions, clock, meanwhile }
    other.roster.applyAmid mechanism
        { ticket := rank kept ticket, definitions, clock, meanwhile } =
      progress.stamp (rank kept progress.roster.issued) (rank kept progress.roster.applied) ∧
    progress.roster.issued = whole.roster.issued ∧
    (progress.roster.applied = 0 ∨ progress.roster.applied ∈ kept) := by
  intro progress
  by_cases older : ticket < whole.roster.applied
  · have same : progress = { roster := whole.roster, summary := { stale := true } } :=
      if_pos older
    rw [same, Roster.applyAmid, if_pos (alike.stale_iff.mpr older), alike.roster]
    exact ⟨rfl, rfl, alike.applied⟩
  · have same : progress = whole.roster.reconcileAmid mechanism
        { ticket, definitions, clock, meanwhile } := if_neg older
    rw [same, Roster.reconcileAmid_issued, Roster.reconcileAmid_applied, Roster.applyAmid,
      if_neg (mt alike.stale_iff.mp older), alike.roster]
    exact ⟨Roster.reconcileAmid_stamp { ticket, definitions, clock, meanwhile } _, rfl,
      .inr counts⟩

theorem follow (alike : Alike lost kept whole other) (flown : Flown mechanism whole event next)
    (counts : ∀ name, event.name? = some name → lost name = false) :
    ∃ kept otherNext, other.perform? mechanism event = some otherNext ∧
      Alike lost kept next otherNext := by
  cases flown with
  | called free => exact ⟨_, alike.call (counts _ rfl) free⟩
  | @read name answer ticket asking =>
      have performed : other.perform? mechanism (.read name answer) = some { other with
          reloads := Function.update other.reloads name
            (some { ticket := rank kept ticket, read := some answer }) } := by
        simp only [perform?, alike.there (counts _ rfl) asking]
      refine ⟨kept, _, performed, alike.roster, ?_, alike.answers, alike.bounded, alike.applied,
        alike.flying_update rfl ?_⟩
      · intro named
        rw [← alike.reloads_update rfl named, counts _ rfl]
        rfl
      · rintro counts _ ⟨⟩
        exact alike.flying name { ticket } counts asking
  | failed held =>
      refine ⟨kept, _, by simp only [perform?, alike.there (counts _ rfl) held]; rfl, ?_⟩
      exact alike.finish (counts _ rfl) _ alike.roster rfl alike.applied
  | @applied name clock meanwhile ticket definitions _ held applied =>
      subst applied
      obtain ⟨same, issued, applied⟩ := @Alike.applyAmid _ mechanism _ _ _ _ alike _
        (alike.flying _ _ (counts _ rfl) held) definitions clock meanwhile
      refine ⟨kept, _, by simp only [perform?, alike.there (counts _ rfl) held]; rfl, ?_⟩
      rw [same]
      exact alike.finish (counts _ rfl) _ rfl issued applied
  | abandoned =>
      refine ⟨kept, _, rfl, alike.roster, ?_, alike.answers, alike.bounded, alike.applied,
        alike.flying_update rfl (by simp)⟩
      intro named
      rw [← alike.reloads_update rfl named, counts _ rfl]
      rfl
  | @aside act =>
      have issued := @Roster.aside_issued _ mechanism whole.roster act
      have applied := @Roster.aside_applied _ mechanism whole.roster act
      refine ⟨kept, _, rfl, ?_, alike.reloads, alike.answers, ?_, ?_, alike.flying⟩
      · dsimp only
        rw [alike.roster, Roster.aside_stamp, issued, applied]
      · exact fun ticket member => issued.symm ▸ alike.bounded ticket member
      · exact applied.symm ▸ alike.applied

end Alike

/-- A reload is lost when its read fails, or nothing of what it reads is applied. -/
def Lost (events : List Event) (lost : Nat → Bool) : Prop :=
  ∀ name, lost name = true →
    (∀ answer, .read name answer ∈ events → ∃ error, answer = .error error) ∨
      ∀ clock meanwhile, .finish name clock meanwhile ∉ events

theorem Lost.initial {before after : List Event} (isLost : Lost (before ++ after) lost) :
    Lost before lost := by
  intro name gone
  rcases isLost name gone with failing | unfinished
  · exact .inl fun answer member => failing answer (List.mem_append_left _ member)
  · exact .inr fun clock meanwhile member =>
      unfinished clock meanwhile (List.mem_append_left _ member)

theorem Lost.harmless {settings : ScheduleSettings} {gated : Bool}
    (isLost : Lost (events ++ [event]) lost)
    (followed : (start settings gated).follow? mechanism events = some flights) {name : Nat}
    (gone : lost name = true) (ticket : Nat) (definitions : List Definition)
    (held : flights.reloads name = some { ticket, read := some (.ok definitions) })
    (clock : TaskId → Wall) (meanwhile : TaskId → List Aside) :
    event ≠ .finish name clock meanwhile := by
  rintro rfl
  have answered := answered_of_follow? followed name _ (.ok definitions) held rfl
  rcases isLost name gone with failing | unfinished
  · obtain ⟨error, same⟩ := failing _ (List.mem_append_left _ answered)
    cases same
  · exact unfinished clock meanwhile (List.mem_append_right _ List.mem_cons_self)

theorem follow?_append (flights : Flights σ) (events : List Event) (event : Event) :
    flights.follow? mechanism (events ++ [event]) =
      (flights.follow? mechanism events).bind (perform? mechanism · event) := by
  simp [follow?, List.foldlM_append]

theorem alike_of_follow? {settings : ScheduleSettings} {gated : Bool}
    (followed : (start settings gated).follow? mechanism events = some whole)
    (isLost : Lost events lost) : ∃ kept other,
      (start settings gated).follow? mechanism
        (events.filter fun event => !event.name?.any lost) = some other ∧
      Alike lost kept whole other := by
  let Accompanied (events : List Event) (whole : Flights σ) : Prop := Lost events lost →
    ∃ kept other, (start settings gated).follow? mechanism
      (events.filter fun event => !event.name?.any lost) = some other ∧ Alike lost kept whole other
  -- The induction carries that reloads are lost, which passes on to what came before an event.
  have accompanied : Accompanied events whole := by
    refine history_induction ?_ followed ?_
    · intro events event whole next followed performed before isLost
      obtain ⟨kept, other, followedToo, alike⟩ := before isLost.initial
      have flown := perform?_flown performed
      rw [List.filter_append]
      cases gone : event.name?.any lost with
      | true =>
          obtain ⟨name, named, isGone⟩ : ∃ name, event.name? = some name ∧ lost name = true := by
            simpa [Option.any_eq_true] using gone
          refine ⟨kept, other, by simpa [gone] using followedToo, ?_⟩
          exact alike.lose flown named isGone (isLost.harmless followed isGone)
      | false =>
          have counts (name : Nat) (named : event.name? = some name) : lost name = false := by
            simpa [named] using gone
          obtain ⟨kept, otherNext, performedToo, alike⟩ := alike.follow flown counts
          refine ⟨kept, otherNext, ?_, alike⟩
          rw [List.filter_cons_of_pos (by simp [gone]), List.filter_nil, follow?_append,
            followedToo]
          exact performedToo
    · exact fun _ => ⟨[], _, rfl, start_alike lost settings gated⟩
  exact accompanied isLost

theorem Flown.idle (flown : Flown mechanism flights event next) {name : Nat}
    (named : event.name? = some name)
    (harmless : ∀ ticket definitions,
      flights.reloads name = some { ticket, read := some (.ok definitions) } →
        ∀ clock meanwhile, event ≠ .finish name clock meanwhile) :
    next.roster = { flights.roster with issued := next.roster.issued } := by
  cases flown with
  | called => rfl
  | read => rfl
  | failed => rfl
  | applied held =>
      cases named
      exact absurd rfl (harmless _ _ held _ _)
  | abandoned => rfl
  | aside => cases named

/-- Reloads whose reads fail, or that are given up before they are applied, change nothing but the
number of tickets; and without them all other reloads are answered in the same way, and the tasks
and the engine are the same in the end. -/
theorem lost_reloads_leave_no_trace {settings : ScheduleSettings} {gated : Bool}
    {last : Flights σ} (isLost : Lost events lost)
    (followed : (start settings gated).follow? mechanism events = some last) :
    (∀ before event after flights next name, events = before ++ event :: after →
      (start settings gated).follow? mechanism before = some flights →
      flights.perform? mechanism event = some next → event.name? = some name →
      lost name = true → next.roster = { flights.roster with issued := next.roster.issued }) ∧
    ∃ other, (start settings gated).follow? mechanism
        (events.filter fun event => !event.name?.any lost) = some other ∧
      other.roster = { last.roster with
        issued := other.roster.issued, applied := other.roster.applied } ∧
      (∀ name, lost name = false → (other.reloads name).map Reload.read =
        (last.reloads name).map Reload.read) ∧
      other.answers = last.answers.filter fun answer => !lost answer.1 := by
  constructor
  · rintro before event after flights next name rfl ran performed named isGone
    rw [← List.singleton_append, ← List.append_assoc] at isLost
    exact (perform?_flown performed).idle named (isLost.initial.harmless ran isGone)
  · obtain ⟨kept, other, ran, alike⟩ := alike_of_follow? followed isLost
    refine ⟨other, ran, ?_, ?_, alike.answers⟩
    · rw [alike.roster]
      rfl
    · intro name counts
      rw [alike.reloads, counts, if_neg Bool.false_ne_true, Option.map_map]
      rfl

end Flights

/-- While a reload waits for its read, another fails and a third is given up. -/
def flurry : List Event :=
  [.call 0, .call 1, .call 2, .read 1 (.error Store.injectedFailure), .read 0 (.ok [sweep]),
    .finish 1 (fun _ => 0) fun _ => [], .abandon 2, .finish 0 (fun _ => 0) fun _ => []]

theorem flurry_answers_oldest :
    Flights.Lost flurry (fun name => name != 0) ∧
    ∃ last, (Flights.start {} false).follow? everySecond flurry = some last ∧
      last.roster.registeredIds = [1] ∧
      ∃ other, (Flights.start {} false).follow? everySecond
          [.call 0, .read 0 (.ok [sweep]), .finish 0 (fun _ => 0) fun _ => []] = some other ∧
        other.roster.entries = last.roster.entries ∧
        other.answers = [(0, .ok { registered := 1 })] := by
  have isLost : Flights.Lost flurry (fun name => name != 0) := by
    intro name gone
    by_cases first : name = 1
    · subst first
      exact .inl (by simp [flurry])
    · refine .inr ?_
      simp_all [flurry]
  have reached : ((Flights.start {} false).follow? everySecond flurry).map (fun last =>
      (last.roster.registeredIds, last.answers)) =
        some ([1], [(0, .ok { registered := 1 }), (1, .error Store.injectedFailure)]) := by rfl
  cases followed : (Flights.start {} false).follow? everySecond flurry with
  | none => simp [followed] at reached
  | some last =>
      simp only [followed, Option.map_some, Option.some.injEq, Prod.mk.injEq] at reached
      obtain ⟨_, other, ran, roster, _, answers⟩ :=
        Flights.lost_reloads_leave_no_trace isLost followed
      have entries := congrArg Roster.entries roster
      exact ⟨isLost, last, rfl, reached.1, other, ran, entries, answers.trans (reached.2 ▸ rfl)⟩

end Rota.Schedule
