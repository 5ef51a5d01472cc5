import Rota.Proofs.Schedule.Reloading

/-!
A reload that is called for after a write leaves nothing older than the write in force, whether
it is applied itself or discarded for a later one. What carries this is that all reads under
later tickets came after the write, and that no read under an earlier ticket is applied after
one of them.
-/

namespace Rota.Schedule

variable {σ : Type} {mechanism : Mechanism σ Duty} {id : TaskId} {definitions : List Definition}

def Act.Accepted (mechanism : Mechanism σ Duty) (id : TaskId) : Act σ → Prop
  | .save definition => definition.id = id → mechanism.Accepts definition.cron
  | _ => True

def Withheld (id : TaskId) (definitions : List Definition) : Prop :=
  ∀ definition ∈ definitions, definition.id = id → definition.enabled = false

/-- A task is there, and may run by an expression that fits. -/
structure Offered (id : TaskId) (fits : String → Prop) (definitions : List Definition) : Prop where
  present : ∃ definition ∈ definitions, definition.id = id
  enabled : ∀ definition ∈ definitions, definition.id = id → definition.enabled = true
  fits : ∀ definition ∈ definitions, definition.id = id → fits definition.cron

namespace Store

variable {store : Store} {definition : Definition} {other : TaskId} {fits : String → Prop}

theorem withheld_save (sound : store.Sound)
    (withheld : definition.id ≠ id → Withheld id store.definitions)
    (off : definition.id = id → definition.enabled = false) :
    Withheld id (store.save definition).definitions := by
  intro saved member same
  rcases (mem_save sound).mp member with rfl | ⟨differ, member⟩
  · exact off same
  · exact withheld (fun equal => differ (same.trans equal.symm)) saved member same

theorem withheld_delete (sound : store.Sound)
    (withheld : other ≠ id → Withheld id store.definitions) :
    Withheld id (store.delete other).2.definitions := by
  intro left member same
  obtain ⟨differ, member⟩ := (mem_delete sound).mp member
  exact withheld (fun equal => differ (same.trans equal.symm)) left member same

theorem offered_save (sound : store.Sound)
    (offered : definition.id ≠ id → Offered id fits store.definitions)
    (on : definition.id = id → definition.enabled = true ∧ fits definition.cron) :
    Offered id fits (store.save definition).definitions := by
  by_cases same : definition.id = id
  · have only (saved : Definition) (member : saved ∈ (store.save definition).definitions)
        (wanted : saved.id = id) : saved = definition := by
      rcases (mem_save sound).mp member with rfl | ⟨differ, _⟩
      · rfl
      · exact absurd (wanted.trans same.symm) differ
    refine ⟨⟨definition, (mem_save sound).mpr (.inl rfl), same⟩, ?_, ?_⟩
    · intro saved member wanted
      exact only saved member wanted ▸ (on same).1
    · intro saved member wanted
      exact only saved member wanted ▸ (on same).2
  · obtain ⟨⟨kept, member, wanted⟩, enabled, fits⟩ := offered same
    have old (saved : Definition) (member : saved ∈ (store.save definition).definitions)
        (wanted : saved.id = id) : saved ∈ store.definitions := by
      rcases (mem_save sound).mp member with rfl | ⟨_, member⟩
      · exact absurd wanted same
      · exact member
    refine ⟨⟨kept, (mem_save sound).mpr (.inr ⟨?_, member⟩), wanted⟩, ?_, ?_⟩
    · exact fun equal => same (equal.symm.trans wanted)
    · exact fun saved member wanted => enabled saved (old saved member wanted) wanted
    · exact fun saved member wanted => fits saved (old saved member wanted) wanted

theorem offered_delete (sound : store.Sound) (differ : other ≠ id)
    (offered : Offered id fits store.definitions) :
    Offered id fits (store.delete other).2.definitions := by
  obtain ⟨⟨kept, member, wanted⟩, enabled, fits⟩ := offered
  refine ⟨⟨kept, (mem_delete sound).mpr ⟨?_, member⟩, wanted⟩, ?_, ?_⟩
  · exact fun equal => differ (equal.symm.trans wanted)
  · exact fun left member wanted => enabled left ((mem_delete sound).mp member).2 wanted
  · exact fun left member wanted => fits left ((mem_delete sound).mp member).2 wanted

end Store

namespace Reloading

/-- The store shows something since a ticket was the last one, and so does all that has been
read under a later one; when such a read has been applied, a task stands as it demands. -/
structure Reflects (shows : List Definition → Prop) (registered : Bool) (id : TaskId) (last : Nat)
    (reloading : Reloading σ) : Prop where
  stored : shows reloading.store.definitions
  held : ∀ ticket definitions, (ticket, .ok definitions) ∈ reloading.held → last < ticket →
    shows definitions
  settled : last < reloading.roster.applied → reloading.roster.isRegistered id = registered

variable {shows : List Definition → Prop} {registered : Bool} {last : Nat}
  {reloading next : Reloading σ} {act : Act σ}

theorem Sound.reflects (sound : reloading.Sound) (stored : shows reloading.store.definitions) :
    reloading.Reflects shows registered id reloading.roster.issued where
  stored := stored
  held _ _ member later :=
    absurd (sound.held _ member) (Nat.not_le_of_lt later)
  settled later := absurd sound.applied (Nat.not_le_of_lt later)

theorem Reflects.answer (reflects : reloading.Reflects shows registered id last) (ticket : Nat)
    (answer : Except Error Summary) :
    (reloading.answer ticket reloading.roster answer).Reflects shows registered id last where
  stored := reflects.stored
  held other definitions member := reflects.held other definitions (List.mem_filter.mp member).1
  settled := reflects.settled

theorem Reflects.perform? (reflects : reloading.Reflects shows registered id last)
    (saves : ∀ definition, act = .save definition →
      shows (reloading.store.save definition).definitions)
    (deletes : ∀ other, act = .delete other → shows (reloading.store.delete other).2.definitions)
    (settles : ∀ ticket now definitions, reloading.roster.applied ≤ ticket → last < ticket →
      shows definitions → ({ reloading.roster with applied := ticket }.reconcile mechanism now
        definitions).roster.isRegistered id = registered)
    (performed : reloading.perform? mechanism act = some next) :
    next.Reflects shows registered id last := by
  cases perform?_outcome performed with
  | called => exact ⟨reflects.stored, reflects.held, reflects.settled⟩
  | read =>
      refine ⟨?_, ?_, reflects.settled⟩
      · rw [Store.definitions, Store.findAll_rows]
        exact reflects.stored
      · intro ticket definitions member later
        rcases List.mem_cons.mp member with same | member
        · obtain ⟨_, read⟩ := Prod.mk.inj same
          exact Store.findAll_ok read.symm ▸ reflects.stored
        · exact reflects.held ticket definitions member later
  | failed => exact reflects.answer _ _
  | outdated => exact reflects.answer _ _
  | @applied ticket now definitions progress held newer reconciled =>
      have kept := Roster.reconcile_keeps reconciled
      refine ⟨reflects.stored, ?_, ?_⟩
      · intro other definitions member
        exact reflects.held other definitions (List.mem_filter.mp member).1
      · intro later
        have applied : progress.roster.applied = ticket := kept.applied
        have fresh : last < ticket := applied ▸ later
        change progress.roster.isRegistered id = registered
        rw [← reconciled]
        exact settles ticket now definitions newer fresh
          (reflects.held ticket definitions held fresh)
  | saved => exact ⟨saves _ rfl, reflects.held, reflects.settled⟩
  | deleted => exact ⟨deletes _ rfl, reflects.held, reflects.settled⟩
  | failingReads => exact ⟨reflects.stored, reflects.held, reflects.settled⟩
  | turned => exact ⟨reflects.stored, reflects.held, reflects.settled⟩

theorem Reflects.imp {weaker : List Definition → Prop}
    (reflects : reloading.Reflects shows registered id last)
    (weakened : ∀ definitions, shows definitions → weaker definitions) :
    reloading.Reflects weaker registered id last where
  stored := weakened _ reflects.stored
  held ticket definitions member later :=
    weakened _ (reflects.held ticket definitions member later)
  settled := reflects.settled

theorem Reflects.perform?_withheld (reflects : reloading.Reflects (Withheld id) false id last)
    (sound : reloading.Sound) (quiet : act.enables id = false)
    (performed : reloading.perform? mechanism act = some next) :
    next.Reflects (Withheld id) false id last := by
  refine reflects.perform? ?_ ?_ ?_ performed
  · rintro definition rfl
    apply Store.withheld_save sound.store fun _ => reflects.stored
    intro same
    simpa [Act.enables, same] using quiet
  · rintro other rfl
    exact Store.withheld_delete sound.store fun _ => reflects.stored
  · intro ticket now definitions _ _ withheld
    exact Roster.isRegistered_reconcile_disabled mechanism now sound.entries withheld

theorem Reflects.perform?_offered {fits : String → Prop}
    (reflects : reloading.Reflects (Offered id fits) true id last) (sound : reloading.Sound)
    (quiet : act.disables id = false)
    (fitting : ∀ definition, act = .save definition → definition.id = id → fits definition.cron)
    (ready : last < reloading.roster.applied ∨
      reloading.roster.engine.stopped = false ∧
        ∀ expression, fits expression → mechanism.Accepts expression)
    (performed : reloading.perform? mechanism act = some next) :
    next.Reflects (Offered id fits) true id last := by
  refine reflects.perform? ?_ ?_ ?_ performed
  · rintro definition rfl
    apply Store.offered_save sound.store fun _ => reflects.stored
    intro same
    have enabled : definition.enabled = true := by simpa [Act.disables, same] using quiet
    exact ⟨enabled, fitting definition rfl same⟩
  · rintro other rfl
    have differ : other ≠ id := by simpa [Act.disables] using quiet
    exact Store.offered_delete sound.store differ reflects.stored
  · intro ticket now definitions _ _ offered
    refine Roster.isRegistered_reconcile_enabled mechanism now ?_ offered.enabled offered.present ?_
    · exact sound.entries
    · rcases ready with settled | ⟨running, accepts⟩
      · exact .inl (reflects.settled settled)
      · exact .inr ⟨running, fun definition member wanted =>
          accepts _ (offered.fits definition member wanted)⟩

/-! Runs after a write. -/

variable {first final : Reloading σ} {acts : List (Act σ)}

theorem reflects_of_withheld (reflects : first.Reflects (Withheld id) false id last)
    (sound : first.Sound) (quiet : ∀ act ∈ acts, act.enables id = false)
    (followed : first.follow? mechanism acts = some final) :
    final.Reflects (Withheld id) false id last := by
  have kept : final.Sound ∧ final.Reflects (Withheld id) false id last := by
    apply follow?_induction ?_ followed ⟨sound, reflects⟩
    rintro act member reloading next performed ⟨sound, reflects⟩
    exact ⟨sound.perform? performed,
      reflects.perform?_withheld sound (quiet act member) performed⟩
  exact kept.2

theorem reflects_of_accepted
    (reflects : first.Reflects (Offered id mechanism.Accepts) true id last)
    (sound : first.Sound) (quiet : ∀ act ∈ acts, act.disables id = false)
    (accepted : ∀ act ∈ acts, act.Accepted mechanism id)
    (followed : first.follow? mechanism acts = some final)
    (running : final.roster.engine.stopped = false) :
    final.Reflects (Offered id mechanism.Accepts) true id last := by
  -- Whether the engine has stopped is known at the end only, so it is carried along.
  have kept : final.Sound ∧ (final.roster.engine.stopped = true ∨
      final.Reflects (Offered id mechanism.Accepts) true id last) := by
    apply follow?_induction ?_ followed ⟨sound, .inr reflects⟩
    rintro act member reloading next performed ⟨sound, state⟩
    refine ⟨sound.perform? performed, ?_⟩
    cases stopped : reloading.roster.engine.stopped with
    | true => exact .inl (perform?_stopped performed stopped)
    | false =>
        right
        have reflects := state.resolve_left (by simp [stopped])
        refine reflects.perform?_offered sound (quiet act member) ?_ (.inr ⟨stopped, ?_⟩) performed
        · rintro definition rfl
          exact accepted _ member
        · exact fun _ taken => taken
  exact kept.2.resolve_left (by simp [running])

/-- Once a later read has been applied, a task on offer stays registered, also when the engine
stops or would not take its expression any more. -/
theorem reflects_of_settled {fits : String → Prop}
    (reflects : first.Reflects (Offered id fits) true id last)
    (settled : last < first.roster.applied) (sound : first.Sound)
    (quiet : ∀ act ∈ acts, act.disables id = false)
    (followed : first.follow? mechanism acts = some final) :
    final.Reflects (Offered id fun _ => True) true id last := by
  have weaker : first.Reflects (Offered id fun _ => True) true id last :=
    reflects.imp fun _ offered => ⟨offered.present, offered.enabled, fun _ _ _ => trivial⟩
  have kept : final.Sound ∧ last < final.roster.applied ∧
      final.Reflects (Offered id fun _ => True) true id last := by
    apply follow?_induction ?_ followed ⟨sound, settled, weaker⟩
    rintro act member reloading next performed ⟨sound, settled, reflects⟩
    refine ⟨sound.perform? performed, ?_, ?_⟩
    · exact Nat.lt_of_lt_of_le settled (perform?_counters performed).2
    · exact reflects.perform?_offered sound (quiet act member) (fun _ _ _ => trivial)
        (.inl settled) performed
  exact kept.2.2

/-! What a write makes the store show. -/

theorem withheld_of_disables (sound : reloading.Sound) (off : act.disables id = true)
    (performed : reloading.perform? mechanism act = some next) :
    Withheld id next.store.definitions := by
  cases act with
  | save definition =>
      cases performed
      obtain ⟨same, disabled⟩ : definition.id = id ∧ definition.enabled = false := by
        simpa [Act.disables] using off
      exact Store.withheld_save sound.store (absurd same) fun _ => disabled
  | delete other =>
      cases performed
      have same : other = id := by simpa [Act.disables] using off
      exact Store.withheld_delete sound.store (absurd same)
  | _ => simp [Act.disables] at off

theorem offered_of_enables (sound : reloading.Sound) (on : act.enables id = true)
    (accepted : act.Accepted mechanism id)
    (performed : reloading.perform? mechanism act = some next) :
    Offered id mechanism.Accepts next.store.definitions := by
  cases act with
  | save definition =>
      cases performed
      obtain ⟨same, enabled⟩ : definition.id = id ∧ definition.enabled = true := by
        simpa [Act.enables] using on
      exact Store.offered_save sound.store (absurd same) fun wanted => ⟨enabled, accepted wanted⟩
  | _ => simp [Act.enables] at on

/-- A reload that was called for after a write and is answered, applied or not, leaves a task
as the write demands, and so do all reloads that end after it. -/
theorem reload_reflects_writes {settings : ScheduleSettings} {gated : Bool}
    {earlier between later after : List (Act σ)} {write : Act σ}
    {before written asked returned final : Reloading σ} {summary : Summary}
    (reached : (start settings gated).follow? mechanism earlier = some before)
    (wrote : before.perform? mechanism write = some written)
    (waited : written.follow? mechanism between = some asked)
    (called : asked.follow? mechanism (.call :: later) = some returned)
    (answered : (asked.roster.issued + 1, .ok summary) ∈ returned.answers)
    (followed : returned.follow? mechanism after = some final) :
    (write.disables id = true →
      (∀ act ∈ between ++ .call :: later ++ after, act.enables id = false) →
        final.roster.isRegistered id = false) ∧
    (write.enables id = true →
      (∀ act ∈ write :: between ++ .call :: later, act.Accepted mechanism id) →
      returned.roster.engine.stopped = false →
      (∀ act ∈ between ++ .call :: later ++ after, act.disables id = false) →
        final.roster.isRegistered id = true) := by
  have sound := sound_of_follow? reached
  have writtenSound := sound.perform? wrote
  have run := follow?_append waited (.call :: later)
  rw [called] at run
  have returnedSound : returned.Sound :=
    follow?_induction (fun _ _ _ _ performed sound => sound.perform? performed) run writtenSound
  -- Its own reload or one called for later has been applied, and either ticket came after the
  -- write.
  have issued := (counters_of_follow? waited).1
  have applied := returnedSound.answered _ _ answered
  have settled : written.roster.issued < returned.roster.applied := by omega
  have stillSettled := Nat.lt_of_lt_of_le settled (counters_of_follow? followed).2
  constructor
  · intro off quiet
    have reflects : written.Reflects (Withheld id) false id written.roster.issued :=
      writtenSound.reflects (withheld_of_disables sound off wrote)
    have whole := follow?_append run after
    rw [followed] at whole
    exact (reflects_of_withheld reflects writtenSound quiet whole).settled stillSettled
  · intro on accepted running quiet
    have reflects :
        written.Reflects (Offered id mechanism.Accepts) true id written.roster.issued :=
      writtenSound.reflects (offered_of_enables sound on (accepted write List.mem_cons_self) wrote)
    have read := reflects_of_accepted reflects writtenSound
      (fun act member => quiet act (List.mem_append_left _ member))
      (fun act member => accepted act (List.mem_cons_of_mem _ member)) run running
    have kept := reflects_of_settled read settled returnedSound
      (fun act member => quiet act (List.mem_append_right _ member)) followed
    exact kept.settled stillSettled

end Reloading

/-- One reload reads before the second write and ends last. Of those called for after it, the
first is discarded for the other. -/
def overtaken (first second : Definition) : List (Act Unit) :=
  [.save first, .call, .read 1, .save second, .call, .call, .read 3, .apply 3 0, .read 2,
    .apply 2 0, .apply 1 0]

theorem everySecond_accepts {expression : String} (given : expression ≠ "") :
    everySecond.Accepts expression := by
  intro now
  have taken : everySecond.read expression = .ok () := if_neg given
  refine ⟨((), now / 1000 * 1000 + 1000), ?_⟩
  rw [Timetable.plan, taken]
  rfl

theorem overtaken_reflects_writes :
    ((Reloading.start {} false).follow? everySecond (overtaken sweep paused)).map
      (·.roster.isRegistered 1) = some false ∧
    ((Reloading.start {} false).follow? everySecond (overtaken paused sweep)).map
      (·.roster.isRegistered 1) = some true := by
  have withheld := (Reloading.reload_reflects_writes
    (show (Reloading.start {} false).follow? everySecond [.save sweep, .call, .read 1] = some _
      from rfl)
    (show Reloading.perform? everySecond _ (.save paused) = some _ from rfl)
    (show Reloading.follow? everySecond _ [] = some _ from rfl)
    (show Reloading.follow? everySecond _
      [.call, .call, .read 3, .apply 3 0, .read 2, .apply 2 0] = some _ from rfl)
    (List.Mem.head _)
    (show Reloading.follow? everySecond _ [.apply 1 0] = some _ from rfl)).1
    (show Act.disables 1 _ = true from rfl) (by decide)
  have offered := (Reloading.reload_reflects_writes
    (show (Reloading.start {} false).follow? everySecond [.save paused, .call, .read 1] = some _
      from rfl)
    (show Reloading.perform? everySecond _ (.save sweep) = some _ from rfl)
    (show Reloading.follow? everySecond _ [] = some _ from rfl)
    (show Reloading.follow? everySecond _
      [.call, .call, .read 3, .apply 3 0, .read 2, .apply 2 0] = some _ from rfl)
    (List.Mem.head _)
    (show Reloading.follow? everySecond _ [.apply 1 0] = some _ from rfl)).2
    (show Act.enables 1 _ = true from rfl)
    (by simp [Act.Accepted, sweep, everySecond_accepts]) rfl (by decide)
  exact ⟨congrArg some withheld, congrArg some offered⟩

def spoilt : List (Act Unit) := [.save { sweep with cron := "" }, .call, .read 1, .apply 1 0]

theorem spoilt_unregisters :
    everySecond.Accepts sweep.cron ∧ (∀ act ∈ spoilt, Act.disables 1 act = false) ∧
      ((Reloading.start {} false).follow? everySecond (.save sweep :: spoilt)).map
        (fun reloading => (reloading.answers, reloading.roster.engine.stopped,
          reloading.roster.isRegistered 1)) =
        some ([(1, .ok { failed := 1 })], false, false) :=
  ⟨everySecond_accepts (by decide), by decide, rfl⟩

end Rota.Schedule
