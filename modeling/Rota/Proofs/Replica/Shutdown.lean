import Rota.Proofs.Replica.Completion
import Rota.Proofs.Replica.Fleet
import Rota.Proofs.Schedule.Aftermath

/-!
Replicas that are shut down while others share the service with them. Main statement: from every
state both loops end by a few steps of their own, with no time passing and nobody else needed;
nothing of the replica is left in the service, the engine takes and starts nothing more, and the
tasks under way go on to their ends.
-/

namespace Rota

open Rota.Election Rota.Schedule Rota.Task

/-- The steps of the engine's loop in a doing. -/
def Doing.steps : Doing → Nat
  | step _ => 1
  | _ => 0

namespace Workday

variable {workday next : Workday} {doing : Doing}

/-- A loop that was told to end comes nearer to it by each step, and nothing new waits to begin. -/
theorem Wrought.told (wrought : workday.Wrought doing next) (unrun : ∀ loop, doing ≠ .run loop)
    (told : workday.replica.engine.Told) : next.replica.engine.Told ∧
      next.waiting.Sublist workday.waiting ∧
      next.replica.engine.remaining + doing.steps = workday.replica.engine.remaining := by
  cases wrought with
  | stepped found stepped =>
      obtain ⟨informed, less, none⟩ := told.step found stepped
      refine ⟨informed, ?_, less⟩
      rw [none, List.append_nil]
  | began _ deals =>
      obtain ⟨informed, same⟩ := told.touches deals.roster.engine
      exact ⟨informed, List.eraseIdx_sublist .., same⟩
  | dealt unstepped _ deals _ fewer =>
      obtain ⟨informed, same⟩ := told.touches deals.roster.engine
      refine ⟨informed, fewer, ?_⟩
      cases doing with
      | step place => exact absurd rfl (unstepped place)
      | _ => exact same
  | woken _ _ _ touches =>
      obtain ⟨informed, same⟩ := told.touches touches
      exact ⟨informed, .refl _, same⟩
  | waited => exact ⟨told, .refl _, rfl⟩
  | ran => exact absurd rfl (unrun _)
  | unrun => exact absurd rfl (unrun _)
  | dismissed =>
      obtain ⟨informed, same⟩ := told.lone.dismiss
      exact ⟨informed, .refl _, same⟩
  | stored unstepped =>
      refine ⟨told, .refl _, ?_⟩
      cases doing with
      | step place => exact absurd rfl (unstepped place)
      | _ => rfl

end Workday

namespace Fleet

variable {fleet next last first : Fleet} {act : Act} {acts later : List Act} {elector : Elector}
  {occasion : Occasion} {assembly : Assembly} {late : Nat} {plan : Replica.Plan}
  {others : List Elector}

/-- The steps that the loops of the replica can still take, those that come too late included. -/
def remaining (fleet : Fleet) : Nat :=
  4 * fleet.late + (fleet.own?.elim 0 fun elector => elector.phase.remaining) +
    fleet.engine.remaining

structure Leaving (fleet : Fleet) : Prop extends Sound fleet where
  told : fleet.engine.Told
  cancelled : ∀ elector, fleet.own? = some elector → elector.cancelled = true

theorem Sound.shut (sound : fleet.Sound) (late : Nat) : (fleet.shut late).Leaving := by
  obtain ⟨elector, found, started, counts⟩ := sound.own
  have cancels : fleet.assembly.happen? (.cancel Replica.self) =
      some (fleet.shut late).assembly := rfl
  have stands : (fleet.shut late).own? = some { elector with cancelled := true } := by
    change (Cluster.cancel _ _).elector? Replica.self = _
    rw [Cluster.cancel, Cluster.elector?_modifyElector, if_pos rfl]
    exact congrArg _ found
  have told : (fleet.shut late).engine.Told := sound.lone.dismiss.1
  have dismissed : (fleet.workday.withEngine fleet.engine.dismiss).Rostered :=
    Workday.Wrought.dismissed.rostered sound.rostered
  have owned : Estate.Owned
      { cluster := (fleet.shut late).assembly.cluster, given := fleet.estate.given } := by
    have gained := sound.owned.gain rfl cancels
    simpa [Estate.gain, Occasion.mover?] using gained
  have sound : (fleet.shut late).Sound := {
    assembly := sound.assembly.happen? cancels
    owned
    own := ⟨_, stands, started, ⟨counts.past, counts.current⟩⟩
    rostered := ⟨dismissed.timetable, dismissed.entries, dismissed.waiting⟩
    crew := sound.crew
    lone := told.lone }
  exact { sound with
    told
    cancelled := by
      intro other foundToo
      cases stands.symm.trans foundToo
      rfl }

theorem Sound.remaining_shut (sound : fleet.Sound) (late : Nat) :
    (fleet.shut late).remaining ≤ 4 * late + 5 := by
  obtain ⟨elector, found, _⟩ := (sound.shut late).own
  have steps := (sound.shut late).lone.remaining_le
  have moves := elector.phase.remaining_le
  have same : (fleet.shut late).late = late := rfl
  simp only [remaining, found, Option.elim_some]
  omega

theorem spend?_le (spent : fleet.spend? occasion = some late) : late ≤ fleet.late := by
  simp only [spend?] at spent
  split at spent
  · cases spent
    exact Nat.le_refl _
  · obtain ⟨_, spent⟩ := Option.ite_none_left_eq_some.mp spent
    cases spent
    exact Nat.sub_le ..

theorem Leaving.spends_own (leaving : fleet.Leaving) (found : fleet.own? = some elector)
    (happened : fleet.assembly.happen? occasion = some assembly)
    (spent : fleet.spend? occasion = some late) {moved : Elector}
    (stands : assembly.cluster.elector? Replica.self = some moved)
    (own : occasion.mover? = some Replica.self) :
    4 * late + moved.phase.remaining + 1 ≤ 4 * fleet.late + elector.phase.remaining := by
  have cancelled := leaving.cancelled elector found
  have few := moved.phase.remaining_le
  simp only [spend?, found, Option.all_some] at spent
  split at spent
  · rename_i prompt
    cases spent
    cases occasion with
    | move now replica move =>
        obtain rfl := Option.some.inj own
        have heeds : fleet.cluster.Heeds now elector move := by
          simpa [isPrompt, cancelled] using prompt
        obtain ⟨later, same, less⟩ := Assembly.happen?_heeds happened found cancelled heeds
        obtain rfl := Option.some.inj (same.symm.trans stands)
        omega
    | attend now replica =>
        obtain rfl := Option.some.inj own
        simp [isPrompt, cancelled] at prompt
    | _ => cases own
  · -- A late move may lead anywhere, but from nowhere are more than three moves left.
    split at spent
    · cases spent
    · obtain rfl := Option.some.inj spent
      omega

theorem Leaving.spends (leaving : fleet.Leaving) (found : fleet.own? = some elector)
    (happened : fleet.assembly.happen? occasion = some assembly)
    (spent : fleet.spend? occasion = some late) : ∃ moved,
      (fleet.gather assembly occasion.mover? late).own? = some moved ∧ moved.cancelled = true ∧
        4 * late + moved.phase.remaining + (if (Act.elect occasion).isOwn then 1 else 0) ≤
          4 * fleet.late + elector.phase.remaining := by
  obtain ⟨_, foundToo, started, _⟩ := leaving.own
  cases found.symm.trans foundToo
  obtain ⟨moved, stands, sees⟩ := gather_sees happened found
  refine ⟨moved, stands, sees.cancelled? (leaving.cancelled elector found), ?_⟩
  by_cases own : occasion.mover? = some Replica.self
  · have less := leaving.spends_own found happened spent stands own
    simpa [Act.isOwn, own] using less
  · have saved := spend?_le spent
    have same := sees.phase started own
    simp only [Act.isOwn, own, same, beq_iff_eq, if_false]
    omega

theorem Leaving.acted (leaving : fleet.Leaving) (acted : fleet.Acted act next) :
    next.Leaving ∧ next.workday.waiting.Sublist fleet.workday.waiting ∧
      next.remaining + (if act.isOwn then 1 else 0) ≤ fleet.remaining := by
  have sound := leaving.toSound.acted acted
  cases acted with
  | @worked doing workday unrun wrought =>
      obtain ⟨told, fewer, less⟩ := wrought.told unrun leaving.told
      -- The work of the replica leaves the electors alone.
      have same : ({ fleet with workday } : Fleet).own? = fleet.own? :=
        congrArg (Cluster.elector? · Replica.self) wrought.cluster
      refine ⟨{ sound with told, cancelled := same ▸ leaving.cancelled }, fewer, ?_⟩
      have steps : (if (Act.day doing).isOwn then 1 else 0) = doing.steps := by
        cases doing <;> rfl
      change 4 * fleet.late + (({ fleet with workday } : Fleet).own?.elim 0 fun elector =>
        elector.phase.remaining) + workday.replica.engine.remaining + _ ≤ _
      rw [remaining, same, steps, engine]
      omega
  | @elected occasion assembly late happened spent =>
      obtain ⟨elector, found, _⟩ := leaving.own
      obtain ⟨moved, stands, cancelled, less⟩ := leaving.spends found happened spent
      refine ⟨{ sound with told := leaving.told, cancelled := ?_ }, .refl _, ?_⟩
      · intro other foundToo
        cases stands.symm.trans foundToo
        exact cancelled
      · rw [remaining, remaining, stands, found]
        change 4 * late + moved.phase.remaining + fleet.engine.remaining + _ ≤
          4 * fleet.late + elector.phase.remaining + fleet.engine.remaining
        omega

theorem Leaving.follow? (leaving : fleet.Leaving) (followed : fleet.follow? acts = some last) :
    last.Leaving ∧ last.workday.waiting.Sublist fleet.workday.waiting ∧
      acts.countP Act.isOwn + last.remaining ≤ fleet.remaining := by
  let holds (acts : List Act) (reached : Fleet) : Prop :=
    reached.Leaving ∧ reached.workday.waiting.Sublist fleet.workday.waiting ∧
      acts.countP Act.isOwn + reached.remaining ≤ fleet.remaining
  refine @history_induction _ _ _ _ _ holds _ ?_ followed ⟨leaving, .refl _, by simp⟩
  rintro acts act before after - performed ⟨leaving, fewer, spent⟩
  obtain ⟨leaves, less, takes⟩ := leaving.acted (perform?_acted performed)
  refine ⟨leaves, less.trans fewer, ?_⟩
  rw [List.countP_append, List.countP_singleton]
  omega

theorem Leaving.steps (leaving : fleet.Leaving) (running : fleet.engine.loops ≠ []) :
    ∃ next, fleet.perform? (.day (.step 0)) = some next := by
  obtain ⟨loop, engine, pass, found, stepped⟩ := leaving.told.goes_on running
    fleet.workday.replica.mechanism fleet.workday.replica.wall
  obtain ⟨workday, worked⟩ : ∃ workday, fleet.workday.perform? (.step 0) = some workday :=
    ⟨_, Option.bind_eq_some_iff.mpr ⟨loop, found, Option.bind_eq_some_iff.mpr
      ⟨(engine, pass), stepped, rfl⟩⟩⟩
  exact ⟨{ fleet with workday }, Option.map_eq_some_iff.mpr ⟨workday, worked, rfl⟩⟩

theorem Leaving.moves (leaving : fleet.Leaving) (now : Instant)
    (unstopped : fleet.own?.any Elector.hasStopped = false) :
    ∃ move next, fleet.perform? (.elect (.move now Replica.self move)) = some next := by
  obtain ⟨elector, found, started, _⟩ := leaving.own
  have cancelled := leaving.cancelled elector found
  have phase : elector.phase ≠ .stopped := by
    intro stopped
    have standing := (leaving.assembly.orderly.openly Replica.self elector found).mpr stopped
    simp [found, Elector.hasStopped, standing] at unstopped
  obtain ⟨move, acted, heeds, unwon, unrefused, acting⟩ :=
    fleet.cluster.exists_heeding now cancelled started phase
  have stood : fleet.assembly.cluster.elector? Replica.self = some elector := found
  obtain ⟨assembly, moved⟩ := Assembly.move?_of_act stood acting
  have happened : fleet.assembly.happen? (.move now Replica.self move) = some assembly := by
    simp [Assembly.happen?, unwon, unrefused, moved]
  have prompt : fleet.spend? (.move now Replica.self move) = some fleet.late := by
    simp [spend?, found, isPrompt, heeds]
  exact ⟨move, _, Option.bind_eq_some_iff.mpr ⟨assembly, happened,
    Option.bind_eq_some_iff.mpr ⟨fleet.late, prompt, rfl⟩⟩⟩

theorem Leaving.ends (leaving : fleet.Leaving) : ∃ acts final,
    (∀ act ∈ acts, act.isOwn = true) ∧ fleet.follow? acts = some final ∧ final.HasEnded := by
  -- On the steps that are left, of which each step of its own takes one.
  induction measure : fleet.remaining using Nat.strongRecOn generalizing fleet with
  | ind bound ih =>
      have goesOn {act : Act} {next : Fleet} (own : act.isOwn = true)
          (performed : fleet.perform? act = some next) : ∃ acts final,
          (∀ act ∈ acts, act.isOwn = true) ∧ fleet.follow? acts = some final ∧
            final.HasEnded := by
        obtain ⟨leaves, _, less⟩ := leaving.acted (perform?_acted performed)
        rw [own, if_pos rfl] at less
        obtain ⟨acts, final, owned, followed, ended⟩ := ih next.remaining (by omega) leaves rfl
        refine ⟨act :: acts, final, List.forall_mem_cons.mpr ⟨own, owned⟩, ?_, ended⟩
        exact Option.bind_eq_some_iff.mpr ⟨next, performed, followed⟩
      by_cases running : fleet.engine.loops = []
      · cases stopped : fleet.own?.any Elector.hasStopped with
        | true => exact ⟨[], fleet, by simp, rfl, stopped, running⟩
        | false =>
            obtain ⟨move, next, performed⟩ := leaving.moves fleet.workday.replica.now stopped
            exact goesOn (by simp [Act.isOwn, Occasion.mover?]) performed
      · obtain ⟨next, performed⟩ := leaving.steps running
        exact goesOn rfl performed

/-! What is left of a replica. -/

/-- What the others can do they can do while the replica leaves. -/
theorem exists_follow? {replica : Nat} (other : replica ≠ Replica.self) {occasions : List Occasion}
    (theirs : ∀ occasion ∈ occasions, occasion.mover? = some replica)
    (followed : fleet.assembly.follow? occasions = some assembly) :
    ∃ last, fleet.follow? (occasions.map .elect) = some last ∧ last.assembly = assembly := by
  induction occasions generalizing fleet with
  | nil =>
      cases followed
      exact ⟨fleet, rfl, rfl⟩
  | cons occasion occasions ih =>
      obtain ⟨their, theirs⟩ := List.forall_mem_cons.mp theirs
      obtain ⟨reached, happened, followed⟩ := Option.bind_eq_some_iff.mp followed
      have prompt (elector : Elector) : fleet.isPrompt elector occasion = true := by
        cases occasion <;> simp_all [isPrompt, Occasion.mover?]
      have spent : fleet.spend? occasion = some fleet.late := by
        cases found : fleet.own? <;> simp [spend?, found, prompt]
      have performed : fleet.perform? (.elect occasion) =
          some (fleet.gather reached occasion.mover? fleet.late) :=
        Option.bind_eq_some_iff.mpr ⟨reached, happened,
          Option.bind_eq_some_iff.mpr ⟨fleet.late, spent, rfl⟩⟩
      have goesOn : (fleet.gather reached occasion.mover? fleet.late).assembly.follow? occasions =
          some assembly := followed
      obtain ⟨last, ran, same⟩ := ih theirs goesOn
      exact ⟨last, Option.bind_eq_some_iff.mpr ⟨_, performed, ran⟩, same⟩

/-- Nothing of the replica is left in the service, and the next in the queue takes over. -/
structure Vacated (fleet : Fleet) : Prop where
  terms : ∀ elector, fleet.own? = some elector → elector.isLeader = false ∧
    ∀ term < elector.terms, term ∈ elector.endedTerms
  sessions : ∀ lease, (Replica.self, lease) ∈ fleet.given →
    fleet.cluster.coordinator.isLive lease = false
  candidates : ∀ candidate ∈ fleet.cluster.coordinator.candidates,
    ∃ replica elector, replica ≠ Replica.self ∧ fleet.cluster.elector? replica = some elector ∧
      (replica, candidate.lease) ∈ fleet.given ∧ elector.key = candidate.key ∧
        elector.candidate = candidate.value
  /-- Whoever waits in front of all others can lead by moves of its own. -/
  succession : ∀ replica elector lease,
    fleet.cluster.elector? replica = some elector → elector.phase = .waiting lease →
      fleet.cluster.coordinator.isFront elector.key lease = true →
        ∃ (occasions : List Occasion) (last : Fleet),
          (∀ occasion ∈ occasions, occasion.mover? = some replica) ∧
          fleet.follow? (occasions.map .elect) = some last ∧ last.cluster.isLeader replica = true
  /-- Once nobody can move, somebody else leads wherever anybody waits. -/
  successor : ∀ now, fleet.assembly.IsStill now → ∀ replica elector lease,
    fleet.cluster.elector? replica = some elector → elector.phase = .waiting lease →
      ∃! leader, leader ≠ Replica.self ∧ ∃ owner, fleet.cluster.elector? leader = some owner ∧
        owner.key = elector.key ∧ owner.isLeader = true ∧
        (fleet.cluster.coordinator.front? elector.key).map Candidate.value = some owner.candidate

theorem Sound.vacated (sound : fleet.Sound)
    (ended : fleet.own?.any Elector.hasStopped = true) : fleet.Vacated := by
  have orderly := sound.owned.orderly
  obtain ⟨own, found, _, counts⟩ := sound.own
  have stopped : own.hasStopped = true := by simpa [found] using ended
  have standing : own.standing = .stopped := by simpa [Elector.hasStopped] using stopped
  have phase := (orderly.openly Replica.self own found).mp standing
  have unled : own.isLeader = false := by simp [Elector.isLeader, standing]
  have other {replica : Nat} {elector : Elector}
      (stood : fleet.cluster.elector? replica = some elector)
      (active : elector.phase ≠ .stopped) : replica ≠ Replica.self := by
    rintro rfl
    obtain rfl := Option.some.inj (found.symm.trans stood)
    exact active phase
  refine ⟨?_, fun lease given => sound.owned.stopped found stopped given, ?_, ?_, ?_⟩
  · intro elector foundToo
    obtain rfl := Option.some.inj (found.symm.trans foundToo)
    refine ⟨unled, fun term begun => ?_⟩
    by_contra unended
    have current := (counts.current term).mpr ⟨begun, unended⟩
    simp [phase, Phase.term?] at current
  · intro candidate queued
    obtain ⟨replica, elector, stood, entered, key, value⟩ := orderly.owned candidate queued
    have held := Phase.lease?_of_entered? entered
    have live := orderly.tidy.live candidate queued
    obtain ⟨holder, given⟩ := sound.owned.all candidate.lease live
    obtain ⟨_, stoodToo, heldToo⟩ := sound.owned.held holder candidate.lease given live
    obtain rfl := orderly.distinct holder replica _ elector _ stoodToo stood heldToo held
    refine ⟨holder, elector, other stood ?_, stood, given, key, value⟩
    intro finished
    simp [finished, Phase.entered?] at entered
  · intro replica elector lease stood waits front
    obtain ⟨occasions, final, theirs, followed, leads⟩ :=
      sound.assembly.rises fleet.workday.replica.now stood waits front
    obtain ⟨last, ran, same⟩ := exists_follow? (other stood (by simp [waits])) theirs followed
    refine ⟨occasions, last, theirs, ran, ?_⟩
    have cluster : last.cluster = final.cluster := congrArg Assembly.cluster same
    rw [cluster]
    exact leads
  · intro now still replica elector lease stood waits
    have unlost : fleet.cluster.act now elector .lose = none :=
      still.act_eq_none stood (by simp [waits]) (by simp [waits]) (by decide) (by decide)
    have unended : fleet.cluster.coordinator.hasEnded lease = false := by
      simpa [Cluster.act, waits] using unlost
    obtain ⟨candidate, first⟩ := sound.assembly.front_of_waiting stood waits unended
    obtain ⟨leader, owner, foundToo, ownerKey, leads, value⟩ :=
      sound.assembly.front_leads still first
    have active : owner.phase ≠ .stopped := by
      intro finished
      have standingToo := (orderly.openly leader owner foundToo).mpr finished
      simp [Elector.isLeader, standingToo] at leads
    refine ⟨leader, ⟨other foundToo active, owner, foundToo, ownerKey, leads, ?_⟩, ?_⟩
    · exact (congrArg _ first).trans (congrArg some value.symm)
    · rintro rival ⟨_, another, stoodToo, rivalKey, leadsToo, _⟩
      exact (sound.assembly.leader_unique still foundToo stoodToo
        (rivalKey.trans ownerKey.symm) leads leadsToo).symm

structure Closed (fleet : Fleet) : Prop where
  stopped : fleet.engine.stopped = true
  refused : ∀ mechanism now name expression duty,
    fleet.engine.add mechanism now name expression duty = .error .engineStopped
  unstarted : ∀ place, fleet.perform? (.day (.step place)) = none

theorem Leaving.closed (leaving : fleet.Leaving) (ended : fleet.engine.loops = []) :
    fleet.Closed := by
  have stopped : fleet.engine.stopped = true := by
    cases leaving.told with
    | ended _ stopped => exact stopped
    | going sole alone => simp [ended] at alone
  refine ⟨stopped, fun mechanism => Engine.add_of_stopped stopped mechanism, fun place => ?_⟩
  have none : fleet.workday.replica.engine.loops[place]? = none := by
    rw [show fleet.workday.replica.engine.loops = [] from ended]
    rfl
  simp [perform?, Workday.perform?, none]

/-! The tasks that were under way. -/

theorem stays_of_follow? {worker : Worker} (member : worker ∈ fleet.workday.replica.crew.workers)
    (followed : fleet.follow? acts = some last)
    (unwoken : ∀ act ∈ acts, act ≠ .day (.wake worker.id)) :
    worker ∈ last.workday.replica.crew.workers := by
  let holds (fleet : Fleet) : Prop := worker ∈ fleet.workday.replica.crew.workers
  refine @run_induction _ _ _ holds _ (fun act listed before after performed present => ?_) _ _
    followed member
  cases perform?_acted performed with
  | worked _ wrought =>
      exact wrought.stays present fun same => unwoken _ listed (congrArg Act.day same)
  | elected => exact present

theorem ending_of_follow? {worker : Nat} (followed : fleet.follow? acts = some last)
    (ending : fleet.workday.replica.crew.Keeps Ending (· = worker))
    (hired : worker < fleet.workday.replica.crew.hired) :
    last.workday.replica.crew.Keeps Ending (· = worker) := by
  let holds (fleet : Fleet) : Prop := fleet.workday.replica.crew.Keeps Ending (· = worker) ∧
    worker < fleet.workday.replica.crew.hired
  refine (@run_induction _ _ _ holds _ (fun _ _ before after performed held => ?_) _ _ followed
    ⟨ending, hired⟩).1
  cases perform?_acted performed with
  | worked _ wrought =>
      exact wrought.keeps held.1 held.2 fun now engine journal _ _ ending =>
        ending.goes_on Engine.remove now engine journal
  | elected => exact held

/-- In every state that a replica can come to, with any number of others on the same service, it
can be shut down: few steps are left to its two loops, each of them can be taken without waiting
for anything, and by these alone both loops end. Then nothing of it is left in the service, whoever
waits in front of the others takes the lead, the engine is closed, and the tasks that were under
way go on to their ends. -/
theorem shutdown_completes (new : ∀ elector ∈ others, elector.IsNew)
    (launched : launch? plan others = some first) (followed : first.follow? acts = some fleet)
    (late : Nat) (left : (fleet.shut late).follow? later = some last) :
    later.countP Act.isOwn ≤ 4 * late + 5 ∧
    (last.engine.loops ≠ [] → ∃ next, last.perform? (.day (.step 0)) = some next) ∧
    (last.own?.any Elector.hasStopped = false → ∀ now, ∃ move next,
      last.perform? (.elect (.move now Replica.self move)) = some next) ∧
    (∃ steps final, (∀ act ∈ steps, act.isOwn = true) ∧ last.follow? steps = some final ∧
      final.HasEnded) ∧
    (last.own?.any Elector.hasStopped = true → last.Vacated) ∧
    (last.engine.loops = [] → last.Closed) ∧
    last.workday.waiting.Sublist fleet.workday.waiting ∧
    (∀ worker ∈ fleet.workday.replica.crew.workers,
      (∀ act ∈ later, act ≠ .day (.wake worker.id)) →
        worker ∈ last.workday.replica.crew.workers) ∧
    ∀ worker < fleet.workday.replica.crew.hired,
      fleet.workday.replica.crew.Keeps Ending (· = worker) → last.workday.Completes worker := by
  have sound : fleet.Sound := sound_of_follow? (sound_of_launch? new launched) followed
  obtain ⟨leaving, fewer, spent⟩ := (sound.shut late).follow? left
  have few := sound.remaining_shut late
  refine ⟨by omega, leaving.steps, fun unstopped now => leaving.moves now unstopped, leaving.ends,
    leaving.vacated, leaving.closed, fewer, ?_, ?_⟩
  · intro worker member unwoken
    have present : worker ∈ (fleet.shut late).workday.replica.crew.workers := member
    exact stays_of_follow? present left unwoken
  · intro worker hired ending
    have kept : (fleet.shut late).workday.replica.crew.Keeps Ending (· = worker) := ending
    exact Workday.completes_of_ending leaving.crew (ending_of_follow? left kept hired)

/-- A replica with one stored task, which sleeps for five seconds. -/
def lodge : Replica.Plan where
  store := some (({} : Store).save
    { id := 7, name := "nap", cron := "* * * * * *", arguments := "[]", enabled := true })
  registry := some { handlers :=
    [("nap", { parameters := .anyList, run := fun _ => .sleep 5000 .finish })] }
  coordinator := some {}
  candidate := "left"

/-- It leads while another waits, and the task is under way. -/
def tenancy : List Act :=
  [.elect (.move 0 0 .open), .elect (.move 0 0 .enter), .elect (.attend 0 0), .elect (.attend 0 0),
    .elect (.move 0 0 .seat), .elect (.start 0 1), .elect (.move 0 1 .open),
    .elect (.move 0 1 .enter), .elect (.attend 0 1), .elect (.attend 0 1), .day (.step 0),
    .day (.step 0), .day (.step 0), .day (.step 0), .day (.wait 1000), .day (.step 0),
    .day (.begin 0)]

def departure : List Act :=
  [.elect (.move 1000 0 .heed), .day (.step 0), .elect (.move 1000 0 .close), .day (.step 0)]

def isNapping (worker : Worker) : Bool :=
  match worker.rest with
  | some (_, .finish) => true
  | _ => false

theorem isNapping_ending {worker : Worker} (napping : isNapping worker = true) :
    Ending worker.rest := by
  unfold isNapping at napping
  split at napping
  · rename_i wake resting
    exact ⟨wake, .finish, resting, trivial⟩
  · cases napping

theorem leader_departs : ∃ first fleet last, launch? lodge [{ candidate := "right" }] = some first ∧
    first.follow? tenancy = some fleet ∧ fleet.cluster.isLeader Replica.self = true ∧
      (fleet.shut 0).follow? departure = some last ∧ last.Vacated ∧ last.Closed ∧
        last.workday.Completes 0 := by
  have evaluated : ((launch? lodge [{ candidate := "right" }]).bind fun first =>
      (first.follow? tenancy).bind fun fleet => ((fleet.shut 0).follow? departure).map fun last =>
        (fleet.cluster.isLeader Replica.self, decide (0 < fleet.workday.replica.crew.hired),
          fleet.workday.replica.crew.workers.all isNapping,
          last.own?.any Elector.hasStopped, last.engine.loops.isEmpty)) =
        some (true, true, true, true, true) := by
    decide +kernel
  simp only [Option.bind_eq_some_iff, Option.map_eq_some_iff, Prod.mk.injEq, decide_eq_true_eq,
    List.all_eq_true, List.isEmpty_iff] at evaluated
  obtain ⟨first, launched, fleet, followed, last, left, leads, hired, naps, stopped, idle⟩ :=
    evaluated
  have new : ∀ elector ∈ [({ candidate := "right" } : Elector)], elector.IsNew := by
    simp [Elector.IsNew]
  have ending : fleet.workday.replica.crew.Keeps Ending (· = 0) :=
    fun worker member _ => isNapping_ending (naps worker member)
  obtain ⟨_, _, _, _, vacated, closed, _, _, completes⟩ :=
    shutdown_completes new launched followed 0 left
  exact ⟨first, fleet, last, launched, followed, leads, left, vacated stopped, closed idle,
    completes 0 hired ending⟩

end Fleet

end Rota
