import Mathlib.Data.List.Nodup
import Rota.Proofs.Schedule.Reloading
import Rota.Proofs.Schedule.Shift

/-!
Entries on time. Main statement: from its addition until it is removed or the loop ends, an entry
starts once at each instant that its schedule matches, whatever other entries do.
-/

namespace Rota.Schedule

variable {σ δ : Type} {mechanism : Mechanism σ δ} {matching : σ → Wall → Prop}

/-- The search answers with the first matching instant after the one asked for, if there is any. -/
structure Mechanism.Exact (mechanism : Mechanism σ δ) (matching : σ → Wall → Prop) : Prop where
  found : ∀ schedule now next, mechanism.next schedule now = .ok next →
    now < next ∧ matching schedule next ∧
      ∀ moment, now < moment → moment < next → ¬matching schedule moment
  exhausted : ∀ schedule now reason, mechanism.next schedule now = .error reason →
    ∀ moment, now < moment → ¬matching schedule moment

/-- The next time of an entry that is rescheduled is a later one that matches. -/
theorem Mechanism.Exact.rescheduled_next (exact : mechanism.Exact matching) {entry : Entry σ δ}
    {now next : Wall} (found : (entry.rescheduled mechanism now).next = some next) :
    now < next ∧ matching entry.schedule next := by
  simp only [Entry.rescheduled] at found
  cases answer : mechanism.next entry.schedule now with
  | error reason => simp [answer, Except.toOption] at found
  | ok first =>
      have first_eq : first = next := by simpa [answer, Except.toOption] using found
      obtain ⟨later, matched, _⟩ := exact.found entry.schedule now first answer
      exact first_eq ▸ ⟨later, matched⟩

/-- Nothing that matches later comes before the next time of an entry that is rescheduled. -/
theorem Mechanism.Exact.rescheduled_covers (exact : mechanism.Exact matching) (entry : Entry σ δ)
    {now moment : Wall} (later : now < moment) (matched : matching entry.schedule moment) :
    ∃ next, (entry.rescheduled mechanism now).next = some next ∧ next ≤ moment := by
  cases answer : mechanism.next entry.schedule now with
  | error reason => exact absurd matched (exact.exhausted _ _ reason answer moment later)
  | ok first =>
      refine ⟨first, by simp [Entry.rescheduled, answer, Except.toOption], ?_⟩
      refine Int.not_lt.mp fun early => ?_
      exact (exact.found _ _ first answer).2.2 moment later early matched

/-- The instants at which an entry has started, each of them once. -/
def StartsOn (starts : List (Wall × EntryId)) (id : EntryId) (due : Wall → Prop) : Prop :=
  ∀ moment, (due moment → starts.count (moment, id) = 1) ∧
    (¬due moment → starts.count (moment, id) = 0)

theorem StartsOn.congr {starts later : List (Wall × EntryId)} {id : EntryId}
    {due : Wall → Prop} (starting : StartsOn starts id due)
    (same : ∀ moment, later.count (moment, id) = starts.count (moment, id)) :
    StartsOn later id due := by
  intro moment
  rw [same]
  exact starting moment

/-- One more instant has become due, and has been started. -/
theorem StartsOn.append {starts fresh : List (Wall × EntryId)} {id : EntryId}
    {due later : Wall → Prop} (starting : StartsOn starts id due) {now : Wall}
    (once : fresh.count (now, id) = 1)
    (others : ∀ moment, moment ≠ now → fresh.count (moment, id) = 0) (undue : ¬due now)
    (turns : later now) (same : ∀ moment, moment ≠ now → (later moment ↔ due moment)) :
    StartsOn (starts ++ fresh) id later := by
  intro moment
  rw [List.count_append]
  obtain ⟨started, unstarted⟩ := starting moment
  by_cases instant : moment = now
  · subst instant
    rw [unstarted undue, once]
    exact ⟨fun _ => rfl, fun never => absurd turns never⟩
  · rw [others moment instant, same moment instant]
    exact ⟨started, unstarted⟩

namespace Shift

/-- An entry has started at every matching instant since it was added, up to its next one. -/
structure Tracks (matching : σ → Wall → Prop) (opened : Wall) (shift : Shift σ δ)
    (entry : Entry σ δ) : Prop where
  found : shift.engine.timetable.find? entry.id = some entry
  since : opened ≤ shift.now
  ahead : ∀ next, entry.next = some next →
    opened < next ∧ matching entry.schedule next ∧ shift.now ≤ next
  started : StartsOn shift.starts entry.id fun moment => opened < moment ∧
    matching entry.schedule moment ∧ ∀ next, entry.next = some next → moment < next

variable {shift next last : Shift σ δ} {act : Act δ} {entry : Entry σ δ} {opened : Wall}

/-- When an entry is added, its first time is the first that matches. -/
theorem Sound.tracks (sound : shift.Sound) (exact : mechanism.Exact matching)
    {name expression : String} {duty : δ} {id : EntryId} {engine : Engine σ δ}
    (added : shift.engine.add mechanism shift.now name expression duty = .ok (id, engine)) :
    ∃ schedule, mechanism.read expression = .ok schedule ∧ ∃ entry, entry.id = id ∧
      entry.schedule = schedule ∧ Tracks matching shift.now { shift with engine } entry := by
  obtain ⟨_, timetable, accepted, rfl⟩ := Engine.add_eq_ok_iff.mp added
  obtain ⟨schedule, first, read, searched, found⟩ := sound.timetable.find?_add accepted
  obtain ⟨later, matched, gap⟩ := exact.found schedule shift.now first searched
  refine ⟨schedule, read, { id, name, schedule, next := some first, duty }, rfl, rfl, ?_,
    Int.le_refl _, ?_, ?_⟩
  · rw [Engine.rouse_timetable]
    exact found
  · intro next ahead
    cases ahead
    exact ⟨later, matched, Int.le_of_lt later⟩
  · intro moment
    have absent : (moment, id) ∉ shift.starts := by
      intro started
      have issued := (sound.starts _ started).2
      rw [(Timetable.add_ok accepted).1] at issued
      exact Nat.lt_irrefl _ issued
    constructor
    · rintro ⟨after, matched, before⟩
      exact absurd matched (gap moment after (before first rfl))
    · exact fun _ => List.count_eq_zero_of_not_mem absent

theorem Tracks.due_now (tracks : Tracks matching opened shift entry)
    (due : entry.isDue shift.now = true) :
    entry.next = some shift.now ∧ opened < shift.now ∧ matching entry.schedule shift.now := by
  simp only [Entry.isDue] at due
  split at due
  · rename_i next ahead
    obtain ⟨after, matched, future⟩ := tracks.ahead next ahead
    have past : next ≤ shift.now := by simpa using due
    obtain rfl : next = shift.now := Int.le_antisymm past future
    exact ⟨ahead, after, matched⟩
  · simp at due

/-- A pass starts an entry only when it is due. -/
theorem Starting.count_eq_zero (sound : shift.engine.timetable.Sound)
    (found : shift.engine.timetable.find? entry.id = some entry)
    {fresh : List (Wall × EntryId)}
    (starting : Starting shift.engine.timetable shift.now fresh) {moment : Wall}
    (early : moment = shift.now → entry.isDue shift.now = false) :
    fresh.count (moment, entry.id) = 0 := by
  apply List.count_eq_zero_of_not_mem
  intro member
  obtain ⟨instant, other, present, same, due⟩ := starting.due _ member
  have foundToo := sound.find?_of_mem present
  rw [same] at foundToo
  obtain rfl := Option.some.inj (found.symm.trans foundToo)
  exact absurd (due.symm.trans (early instant)) (by simp)

/-- When a tracked entry has been fired, its next time is the next that matches. -/
theorem Tracks.fired (tracks : Tracks matching opened shift entry)
    (exact : mechanism.Exact matching) (sound : shift.engine.timetable.Sound)
    (due : entry.isDue shift.now = true) {engine : Engine σ δ} {fresh : List (Wall × EntryId)}
    (same : engine.timetable = (shift.engine.timetable.fire mechanism shift.now).2)
    (starting : Starting shift.engine.timetable shift.now fresh)
    (whole : (shift.now, entry.id) ∈ fresh) :
    Tracks matching opened { engine, now := shift.now, starts := shift.starts ++ fresh }
      (entry.rescheduled mechanism shift.now) := by
  obtain ⟨ahead, after, matched⟩ := tracks.due_now due
  refine ⟨?_, tracks.since, ?_, ?_⟩
  · have fires : (shift.engine.timetable.fire mechanism shift.now).2.find? entry.id = _ :=
      Timetable.find?_fire mechanism shift.now entry.id
    rw [tracks.found, Option.map_some, if_pos due, ← same] at fires
    exact fires
  · intro next found
    obtain ⟨later, fits⟩ := exact.rescheduled_next found
    exact ⟨Int.lt_trans after later, fits, Int.le_of_lt later⟩
  · apply tracks.started.append (List.count_eq_one_of_mem starting.once whole)
    · intro moment differ
      exact starting.count_eq_zero sound tracks.found fun same => absurd same differ
    · rintro ⟨_, _, early⟩
      exact Int.lt_irrefl _ (early shift.now ahead)
    · exact ⟨after, matched, fun next found => (exact.rescheduled_next found).1⟩
    · intro moment differ
      constructor
      · rintro ⟨late, fits, early⟩
        -- The search from now skips nothing that matches, so what is due has come by now.
        have past : moment ≤ shift.now := by
          refine Int.not_lt.mp fun future => ?_
          obtain ⟨first, found, covered⟩ := exact.rescheduled_covers entry future fits
          exact absurd (early first found) (Int.not_lt.mpr covered)
        refine ⟨late, fits, ?_⟩
        intro next found
        obtain rfl := Option.some.inj (ahead.symm.trans found)
        exact Int.lt_iff_le_and_ne.mpr ⟨past, differ⟩
      · rintro ⟨late, fits, early⟩
        refine ⟨late, fits, ?_⟩
        intro next found
        exact Int.lt_trans (early shift.now ahead) (exact.rescheduled_next found).1

/-- Whatever is done, a tracked entry that goes on being served goes on being tracked. -/
theorem Tracks.perform? (tracks : Tracks matching opened shift entry)
    (exact : mechanism.Exact matching) (sound : shift.Sound)
    (performed : shift.perform? mechanism act = some next) (running : shift.engine.loops ≠ [])
    (serves : next.Serves entry.id) : ∃ later : Entry σ δ, later.id = entry.id ∧
      later.schedule = entry.schedule ∧ Tracks matching opened next later := by
  obtain ⟨effect, _⟩ := sound.effect performed
  have stands := Timetable.mem_of_find? tracks.found
  cases effect with
  | added added same =>
      refine ⟨entry, rfl, rfl, ?_, tracks.since, tracks.ahead, tracks.started⟩
      have differ : entry.id ≠ _ := Nat.ne_of_lt (sound.timetable.issued entry stands.1)
      rw [← (Timetable.add_ok added).1] at differ
      rw [same, Timetable.find?_add_of_ne added differ]
      exact tracks.found
  | removed same =>
      refine ⟨entry, rfl, rfl, ?_, tracks.since, tracks.ahead, tracks.started⟩
      obtain ⟨_, kept, found⟩ := serves
      rw [same, Timetable.find?_remove] at found ⊢
      split at found
      · cases found
      · rename_i differ
        rw [if_neg differ]
        exact tracks.found
  | turned same =>
      refine ⟨entry, rfl, rfl, ?_, tracks.since, tracks.ahead, tracks.started⟩
      rw [same]
      exact tracks.found
  | @fired engine fresh same starting whole =>
      by_cases due : entry.isDue shift.now = true
      · refine ⟨entry.rescheduled mechanism shift.now, rfl, rfl, ?_⟩
        exact tracks.fired exact sound.timetable due same starting
          (whole serves.1 entry stands.1 due)
      · refine ⟨entry, rfl, rfl, ?_, tracks.since, tracks.ahead, ?_⟩
        · rw [same, Timetable.find?_fire, tracks.found, Option.map_some, if_neg due]
        · apply tracks.started.congr
          intro moment
          have here : fresh.count (moment, entry.id) = 0 :=
            starting.count_eq_zero sound.timetable tracks.found
              fun _ => Bool.eq_false_iff.mpr due
          rw [List.count_append, here, Nat.add_zero]
  | waited goes before =>
      refine ⟨entry, rfl, rfl, tracks.found, Int.le_trans tracks.since goes, ?_, tracks.started⟩
      intro moment ahead
      obtain ⟨after, matched, _⟩ := tracks.ahead moment ahead
      exact ⟨after, matched, before running entry stands.1 moment ahead⟩

end Shift

/-- Between two instants an entry has started once at each that its schedule matches, and at no
other, but for the later of the two itself. -/
def Punctual (matching : σ → Wall → Prop) (schedule : σ) (opened closed : Wall) (id : EntryId)
    (starts : List (Wall × EntryId)) : Prop :=
  ∀ moment, (opened < moment → moment < closed → matching schedule moment →
      starts.count (moment, id) = 1) ∧
    (starts.count (moment, id) ≠ 0 → opened < moment ∧ moment ≤ closed ∧
      matching schedule moment ∧ starts.count (moment, id) = 1)

namespace Shift

variable {shift next last : Shift σ δ} {act : Act δ} {entry : Entry σ δ} {opened closed : Wall}

theorem Tracks.punctual_now (tracks : Tracks matching opened shift entry) (sound : shift.Sound) :
    Punctual matching entry.schedule opened shift.now entry.id shift.starts := by
  intro moment
  obtain ⟨started, unstarted⟩ := tracks.started moment
  constructor
  · intro after before matched
    refine started ⟨after, matched, ?_⟩
    intro next ahead
    exact Int.lt_of_lt_of_le before (tracks.ahead next ahead).2.2
  · intro nonzero
    have due := Classical.not_not.mp (mt unstarted nonzero)
    have member := List.count_pos_iff.mp (Nat.pos_of_ne_zero nonzero)
    exact ⟨due.1, (sound.starts _ member).1, due.2.1, started due⟩

/-- The act that ends the service may start the entry once more, when it is due. -/
theorem Tracks.punctual_ceased (tracks : Tracks matching opened shift entry) (sound : shift.Sound)
    (performed : shift.perform? mechanism act = some next) :
    Punctual matching entry.schedule opened shift.now entry.id next.starts := by
  have before := tracks.punctual_now sound
  obtain ⟨effect, _⟩ := sound.effect performed
  cases effect with
  | @fired engine fresh same starting whole =>
      by_cases due : entry.isDue shift.now = true
      · obtain ⟨ahead, after, matched⟩ := tracks.due_now due
        have unstarted : shift.starts.count (shift.now, entry.id) = 0 := by
          apply (tracks.started shift.now).2
          rintro ⟨_, _, early⟩
          exact Int.lt_irrefl _ (early shift.now ahead)
        have atMost : fresh.count (shift.now, entry.id) ≤ 1 :=
          List.nodup_iff_count_le_one.mp starting.once _
        intro moment
        rw [List.count_append]
        by_cases instant : moment = shift.now
        · subst instant
          rw [unstarted, Nat.zero_add]
          refine ⟨fun _ early => absurd early (Int.lt_irrefl _), ?_⟩
          intro nonzero
          exact ⟨after, Int.le_refl _, matched, by omega⟩
        · have here : fresh.count (moment, entry.id) = 0 :=
            starting.count_eq_zero sound.timetable tracks.found fun same => absurd same instant
          rw [here, Nat.add_zero]
          exact before moment
      · intro moment
        have here : fresh.count (moment, entry.id) = 0 :=
          starting.count_eq_zero sound.timetable tracks.found fun _ => Bool.eq_false_iff.mpr due
        rw [List.count_append, here, Nat.add_zero]
        exact before moment
  | _ => exact before

/-- A run that serves an entry to its end tracks it to its end. -/
theorem Tracks.follow? (tracks : Tracks matching opened shift entry)
    (exact : mechanism.Exact matching) (sound : shift.Sound) {acts : List (Act δ)}
    (followed : shift.follow? mechanism acts = some last) (serves : last.Serves entry.id) :
    last.Sound ∧ ∃ later : Entry σ δ, later.id = entry.id ∧ later.schedule = entry.schedule ∧
      Tracks matching opened last later := by
  have running {shift : Shift σ δ} {acts : List (Act δ)} (sound : shift.Sound)
      (issued : entry.id < shift.engine.timetable.nextId)
      (followed : shift.follow? mechanism acts = some last) : shift.Serves entry.id := by
    refine Classical.not_not.mp fun unserved => ?_
    exact (sound.follow?_unserved followed issued unserved).1 serves
  induction acts generalizing shift entry with
  | nil =>
      obtain rfl := Option.some.inj followed
      exact ⟨sound, entry, rfl, rfl, tracks⟩
  | cons act acts ih =>
      have issued := sound.timetable.issued entry (Timetable.mem_of_find? tracks.found).1
      have serving := running sound issued followed
      obtain ⟨next, performed, followed⟩ := follow?_cons.mp followed
      have later := sound.perform? performed
      have issues := Nat.lt_of_lt_of_le issued (sound.effect performed).1.later.2
      obtain ⟨moved, sameId, sameSchedule, tracked⟩ :=
        tracks.perform? exact sound performed serving.1 (running later issues followed)
      rw [← sameId, ← sameSchedule]
      rw [← sameId] at serves running
      exact ih tracked later followed serves running

theorem Tracks.punctual (tracks : Tracks matching opened shift entry)
    (exact : mechanism.Exact matching) (sound : shift.Sound)
    (serving : ServesUntil mechanism entry.id shift last closed) :
    Punctual matching entry.schedule opened closed entry.id last.starts := by
  cases serving with
  | still followed serves =>
      obtain ⟨ended, later, sameId, sameSchedule, tracked⟩ :=
        tracks.follow? exact sound followed serves
      rw [← sameId, ← sameSchedule]
      exact tracked.punctual_now ended
  | @ceased before reached act next after followed serves performed unserved rest =>
      obtain ⟨midway, later, sameId, sameSchedule, tracked⟩ :=
        tracks.follow? exact sound followed serves
      rw [← sameId, ← sameSchedule]
      rw [← sameId] at unserved
      have stands := (Timetable.mem_of_find? tracked.found).1
      have issued := Nat.lt_of_lt_of_le (midway.timetable.issued later stands)
        (midway.effect performed).1.later.2
      obtain ⟨_, kept⟩ := (midway.perform? performed).follow?_unserved rest issued unserved
      intro moment
      rw [kept]
      exact tracked.punctual_ceased midway performed moment

theorem start_sound {engine : Engine σ δ} (idle : engine.loops = [])
    (sound : engine.timetable.Sound) (loop : Nat) (now : Wall) :
    Sound { engine := engine.run loop, now } :=
  ⟨sound, Engine.run_watched idle loop, by simp⟩

end Shift

/-- A schedule is added to an engine while its loop runs, and served from then on until it is
removed, or the loop ends, or the run stops. -/
inductive Served (mechanism : Mechanism σ δ) : σ → Wall → Wall → EntryId →
    List (Wall × EntryId) → Prop
  | run {engine : Engine σ δ} {loop : Nat} {begun : Wall} {first last : Shift σ δ}
      {before : List (Shift.Act δ)} {name expression duty id added schedule closed} :
      engine.loops = [] → engine.timetable.Sound →
      ({ engine := engine.run loop, now := begun } : Shift σ δ).follow? mechanism before =
        some first →
      first.engine.loops ≠ [] →
      first.engine.add mechanism first.now name expression duty = .ok (id, added) →
      mechanism.read expression = .ok schedule →
      Shift.ServesUntil mechanism id { first with engine := added } last closed →
      Served mechanism schedule first.now closed id last.starts

theorem Served.punctual {schedule : σ} {opened closed : Wall} {id : EntryId}
    {starts : List (Wall × EntryId)} (exact : mechanism.Exact matching)
    (served : Served mechanism schedule opened closed id starts) :
    Punctual matching schedule opened closed id starts := by
  cases served with
  | @run engine loop begun first last before name expression duty id added schedule closed
      idle sound followed _ accepted read serving =>
      have first_sound : first.Sound := run_induction
        (fun _ _ _ _ performed sound => sound.perform? performed)
        followed (Shift.start_sound idle sound loop begun)
      have performed : first.perform? mechanism (.add name expression duty) =
          some { first with engine := added } := by
        simp [Shift.perform?, accepted]
      obtain ⟨found, readToo, entry, rfl, rfl, tracks⟩ := first_sound.tracks exact accepted
      obtain rfl := Except.ok.inj (read.symm.trans readToo)
      exact tracks.punctual exact (first_sound.perform? performed) serving

/-- From its addition until it is removed or the loop ends, an entry starts once at each matching
instant and at no other; it never starts again after an instant from which the search finds none;
and what goes on around it makes no difference to it, but for the last instant. A call that removes
it ends its service at the instant of the call, and so does the act with which the loop ends. -/
theorem starts_exactly_on_schedule {schedule : σ} {opened closed : Wall} {id : EntryId}
    {starts : List (Wall × EntryId)} (exact : mechanism.Exact matching)
    (served : Served mechanism schedule opened closed id starts) :
    (∀ moment, (opened < moment → moment < closed → matching schedule moment →
        starts.count (moment, id) = 1) ∧
      (starts.count (moment, id) ≠ 0 → opened < moment ∧ moment ≤ closed ∧
        matching schedule moment ∧ starts.count (moment, id) = 1)) ∧
    (∀ final reason, mechanism.next schedule final = .error reason →
      (final, id) ∈ starts → ∀ moment, final < moment → (moment, id) ∉ starts) ∧
    (∀ other otherStarts, Served mechanism schedule opened closed other otherStarts →
      ∀ moment, moment ≠ closed →
        starts.count (moment, id) = otherStarts.count (moment, other)) ∧
    (∀ (shift reached next last : Shift σ δ) before act after,
      shift.follow? mechanism before = some reached → reached.Serves id →
      reached.perform? mechanism act = some next →
      act = .remove id ∨ next.engine.loops = [] → ¬next.Serves id ∧
        (next.follow? mechanism after = some last →
          Shift.ServesUntil mechanism id shift last reached.now)) := by
  have punctual := served.punctual exact
  refine ⟨punctual, ?_, ?_, ?_⟩
  · intro final reason exhausted _ moment after started
    have nonzero := (punctual moment).2 (Nat.pos_iff_ne_zero.mp (List.count_pos_iff.mpr started))
    exact exact.exhausted schedule final reason exhausted moment after nonzero.2.2.1
  · intro other otherStarts servedToo moment differ
    have punctualToo := servedToo.punctual exact
    have agree {first second : EntryId} {firstStarts secondStarts : List (Wall × EntryId)}
        (one : Punctual matching schedule opened closed first firstStarts)
        (two : Punctual matching schedule opened closed second secondStarts)
        (started : firstStarts.count (moment, first) ≠ 0) :
        secondStarts.count (moment, second) = firstStarts.count (moment, first) := by
      obtain ⟨after, before, matched, once⟩ := (one moment).2 started
      have inside : moment < closed := Int.lt_iff_le_and_ne.mpr ⟨before, differ⟩
      rw [once]
      exact (two moment).1 after inside matched
    by_cases started : starts.count (moment, id) = 0
    · by_cases startedToo : otherStarts.count (moment, other) = 0
      · rw [started, startedToo]
      · exact agree punctualToo punctual startedToo
    · exact (agree punctual punctualToo started).symm
  · intro shift reached next last before act after followed serves performed closes
    have unserved := Shift.unserved_of_removed performed closes
    exact ⟨unserved, fun rest => .ceased followed serves performed unserved rest⟩

theorem everySecond_exact : everySecond.Exact fun _ moment => moment % 1000 = 0 := by
  have second (now : Int) : now < now / 1000 * 1000 + 1000 ∧
      (now / 1000 * 1000 + 1000) % 1000 = 0 ∧
        ∀ moment, now < moment → moment < now / 1000 * 1000 + 1000 → ¬moment % 1000 = 0 := by
    refine ⟨by omega, by omega, ?_⟩
    intro moment after before
    omega
  constructor
  · intro schedule now next found
    have next_eq : now / 1000 * 1000 + 1000 = next := by simpa [everySecond] using found
    exact next_eq ▸ second now
  · intro schedule now reason failed
    simp [everySecond] at failed

/-- An entry is added while the loop is on its way to rest, and removed half a second after it has
been fired. -/
theorem sweep_starts_on_schedule :
    everySecond.Exact (fun _ moment => moment % 1000 = 0) ∧
      ∃ starts, Served everySecond () 250 1500 1 starts ∧ starts.count (1000, 1) = 1 ∧
        ∀ moment, moment ≠ 1000 → starts.count (moment, 1) = 0 := by
  obtain ⟨starts, served⟩ : ∃ starts, Served everySecond () 250 1500 1 starts := by
    obtain ⟨first, added, begun, running, opened, accepted, reached, next, last, followed, serves,
        closed, performed, rest⟩ : ∃ (first : Shift Unit Duty) (added : Engine Unit Duty),
        Shift.follow? everySecond { engine := Engine.run {} 1, now := 250 } [.step] = some first ∧
        first.engine.loops ≠ [] ∧ first.now = 250 ∧
        first.engine.add everySecond first.now "sweep" "* * * * * *" .reload = .ok (1, added) ∧
        ∃ reached next last, Shift.follow? everySecond { first with engine := added }
            [.step, .step, .step, .wait 1000, .step, .step, .step, .wait 1500] = some reached ∧
          reached.Serves 1 ∧ reached.now = 1500 ∧
          reached.perform? everySecond (.remove 1) = some next ∧
          next.follow? everySecond [.step] = some last :=
      ⟨_, _, rfl, List.cons_ne_nil _ _, rfl, rfl, _, _, _, rfl, ⟨List.cons_ne_nil _ _, _, rfl⟩,
        rfl, rfl, rfl⟩
    have unserved : ¬next.Serves 1 := Shift.unserved_of_removed performed (.inl rfl)
    rw [← opened, ← closed]
    exact ⟨last.starts, .run rfl Timetable.empty_sound begun running accepted rfl
      (.ceased followed serves performed unserved rest)⟩
  refine ⟨everySecond_exact, starts, served, ?_, ?_⟩
  · exact ((starts_exactly_on_schedule everySecond_exact served).1 1000).1 (by decide) (by decide)
      (by decide)
  · intro moment differ
    have punctual := (starts_exactly_on_schedule everySecond_exact served).1 moment
    refine Classical.not_not.mp fun nonzero => ?_
    obtain ⟨after, before, whole, _⟩ := punctual.2 nonzero
    have only : ∀ second : Int, 250 < second → second ≤ 1500 → second % 1000 = 0 →
        second = 1000 := by
      omega
    exact differ (only moment after before whole)

end Rota.Schedule
