import Rota.Proofs.Election.Candidacy

/-!
Campaigns that wait. A call sleeps until a change of the queues is announced, and the end of a
session is announced some time after it has changed them. Main statement: as long as no session is
ended around a campaign that has still to enter its candidate, nobody sleeps at the front of a
queue but for an end that is still to be announced.
-/

namespace Rota.Election

/-- The candidate has been entered, and the call is not over. -/
def Call.isWaiting (call : Call) : Bool :=
  call.isPending && call.phase != .entering

theorem Coordinator.exists_leaderLease? {coordinator : Coordinator} {key : String} {lease : Lease}
    (enters : coordinator.Enters key lease) :
    ∃ leader, coordinator.leaderLease? key = some leader := by
  obtain ⟨candidate, member, sameKey, _⟩ := enters
  rw [leaderLease?_eq_find?]
  cases found : coordinator.candidates.find? (·.key == key) with
  | none => simpa [sameKey] using List.find?_eq_none.mp found candidate member
  | some first => exact ⟨first.lease, rfl⟩

namespace Call.Stepped

variable {coordinator later : Coordinator} {call next : Call}

theorem key (stepped : Stepped coordinator call later next) : next.key = call.key := by
  cases stepped <;> rfl

theorem succeeds (stepped : Stepped coordinator call later next) : later.Succeeds coordinator := by
  cases stepped with
  | entered _ unended =>
      have entered : coordinator.enlist call.key call.lease call.value = .ok { coordinator with
          candidates := Coordinator.enlisted
            { key := call.key, lease := call.lease, value := call.value }
              coordinator.candidates } := by
        rw [Coordinator.enlist, unended, if_neg Bool.false_ne_true]
      exact Coordinator.enlist_succeeds entered
  | announced => exact Coordinator.announce_succeeds coordinator
  | _ => exact .refl coordinator

theorem entered_before (stepped : Stepped coordinator call later next) :
    next.phase ≠ .entering := by
  cases stepped <;> simp

/-- A call that waits has just entered its candidate, or has waited before. -/
theorem enters (stepped : Stepped coordinator call later next) (waits : next.isWaiting = true)
    (waited : call.isWaiting = true → coordinator.Enters call.key call.lease) :
    later.Enters next.key next.lease := by
  cases stepped with
  | entered => exact Coordinator.enters_enlisted.mpr (.inr ⟨rfl, rfl⟩)
  | announced phase => exact waited (by simp [isWaiting, isPending, phase])
  | subscribed phase => exact waited (by simp [isWaiting, isPending, phase])
  | parked phase => exact waited (by simp [isWaiting, isPending, phase])
  | woken phase => exact waited (by simp [isWaiting, isPending, phase])
  | _ => simp [isWaiting, isPending] at waits

/-- A call has seen a version that there has been. -/
theorem seen (stepped : Stepped coordinator call later next) {version : Nat}
    (sees : next.phase = .checking version ∨ next.phase = .parked version)
    (saw : ∀ version, call.phase = .checking version → version ≤ coordinator.version) :
    version ≤ later.version := by
  cases stepped with
  | subscribed => simp_all
  | parked checking => exact saw version (by simp_all)
  | woken => simp_all
  | _ => simp at sees

/-- A call goes to sleep only behind another. -/
theorem behind (stepped : Stepped coordinator call later next) {version : Nat}
    (sleeps : next.phase = .parked version) : later.isFront next.key next.lease = false := by
  cases stepped with
  | parked _ _ behind => exact behind
  | _ => simp at sleeps

theorem at_front (stepped : Stepped coordinator call later next) (won : next.phase = .won) :
    ∃ seen, call = { next with phase := .checking seen } ∧
      coordinator.hasEnded next.lease = false ∧
      coordinator.isFront next.key next.lease = true := by
  cases stepped with
  | @won seen checking unended front => exact ⟨seen, by simp [← checking], unended, front⟩
  | _ => simp at won

end Call.Stepped

namespace Traffic

/-- What a section does. -/
inductive Performed (traffic : Traffic) : Section → Traffic → Prop
  | created : Performed traffic .create
      { traffic with coordinator := traffic.coordinator.createSession.2 }
  | failing (count : Nat) : Performed traffic (.failNext count)
      { traffic with coordinator := traffic.coordinator.failNext count }
  | began (key : String) (lease : Lease) (value : String) :
      Performed traffic (.campaign key lease value)
      { traffic with calls := traffic.calls ++ [{ key, lease, value }] }
  | proceeded {place call later moved} : traffic.calls[place]? = some call →
      Call.Stepped traffic.coordinator call later moved →
      Performed traffic (.proceed place)
        { traffic with coordinator := later, calls := traffic.calls.set place moved }
  | withdrew (lease : Lease) : Performed traffic (.withdraw lease) { traffic with
      coordinator := traffic.coordinator.withdraw lease
      ending := if traffic.coordinator.isLive lease then lease :: traffic.ending
        else traffic.ending }
  | signalled (lease : Lease) : Performed traffic (.signalEnd lease) { traffic with
      coordinator := traffic.coordinator.signalEnd lease
      ending := traffic.ending.filter (· != lease)
      unannounced := traffic.unannounced + 1 }
  | announced {left} : Performed traffic .announceEnd
      { traffic with coordinator := traffic.coordinator.announce, unannounced := left }

variable {traffic next last : Traffic} {sect : Section} {sections : List Section} {place : Nat}
  {key : String} {lease : Lease} {call : Call}

theorem perform?_performed (performed : traffic.perform? sect = some next) :
    Performed traffic sect next := by
  cases sect with
  | create =>
      cases performed
      exact .created
  | failNext count =>
      cases performed
      exact .failing count
  | campaign key lease value =>
      simp only [perform?, Option.ite_none_right_eq_some] at performed
      obtain ⟨_, performed⟩ := performed
      cases performed
      exact .began key lease value
  | proceed place =>
      simp only [perform?, bind, Option.bind_eq_some_iff, pure, Option.some.injEq] at performed
      obtain ⟨call, found, ⟨later, moved⟩, stepped, rfl⟩ := performed
      exact .proceeded found (Call.step?_stepped stepped)
  | withdraw lease =>
      cases performed
      exact .withdrew lease
  | signalEnd lease =>
      simp only [perform?, Option.ite_none_right_eq_some] at performed
      obtain ⟨_, performed⟩ := performed
      cases performed
      exact .signalled lease
  | announceEnd =>
      simp only [perform?] at performed
      split at performed
      · simp at performed
      · cases performed
        exact .announced

namespace Performed

theorem succeeds (performed : Performed traffic sect next) :
    next.coordinator.Succeeds traffic.coordinator := by
  cases performed with
  | created => exact Coordinator.createSession_succeeds _
  | failing count => exact Coordinator.failNext_succeeds _ count
  | began => exact .refl _
  | proceeded _ stepped => exact stepped.succeeds
  | withdrew lease => exact Coordinator.withdraw_succeeds _ lease
  | signalled lease => exact Coordinator.signalEnd_succeeds _ lease
  | announced => exact Coordinator.announce_succeeds _

theorem version (performed : Performed traffic sect next) :
    traffic.coordinator.version ≤ next.coordinator.version := by
  cases performed with
  | created =>
      simp only [Coordinator.createSession]
      split <;> exact Nat.le_refl _
  | proceeded _ stepped => cases stepped <;> simp [Coordinator.announce]
  | _ => simp [Coordinator.failNext, Coordinator.withdraw, Coordinator.signalEnd,
      Coordinator.announce]

theorem enters (performed : Performed traffic sect next)
    (entered : traffic.coordinator.Enters key lease)
    (live : next.coordinator.isLive lease = true) : next.coordinator.Enters key lease := by
  cases performed with
  | created =>
      simp only [Coordinator.createSession]
      split <;> exact entered
  | proceeded _ stepped =>
      cases stepped with
      | entered => exact Coordinator.enters_enlisted.mpr (.inl entered)
      | _ => exact entered
  | withdrew ending =>
      have differ := ((Coordinator.isLive_withdraw _ ending lease).mp live).2
      exact Coordinator.enters_withdraw.mpr ⟨entered, differ⟩
  | _ => exact entered

/-- A session that ends is announced before calm returns. -/
theorem calm (performed : Performed traffic sect next) (calm : next.IsCalm)
    (unchanged : next.coordinator.version = traffic.coordinator.version) : traffic.IsCalm ∧
      ∀ lease, traffic.coordinator.isLive lease = true →
        next.coordinator.isLive lease = true := by
  cases performed with
  | created => exact ⟨calm, fun _ => Coordinator.isLive_createSession⟩
  | proceeded _ stepped => cases stepped <;> exact ⟨calm, fun _ live => live⟩
  | withdrew ending =>
      obtain ⟨none, announced⟩ := calm
      -- Only a session that was not live can be withdrawn and leave nothing to be signalled.
      split at none
      · simp at none
      · rename_i gone
        refine ⟨⟨none, announced⟩, fun lease live => ?_⟩
        refine (Coordinator.isLive_withdraw _ ending lease).mpr ⟨live, ?_⟩
        rintro rfl
        exact gone live
  | signalled => simp [IsCalm] at calm
  | announced => simp [Coordinator.announce] at unchanged
  | _ => exact ⟨calm, fun _ live => live⟩

/-- Where a call comes from that is found after a section. -/
theorem call_cases (performed : Performed traffic sect next)
    (found : next.calls[place]? = some call) :
    traffic.calls[place]? = some call ∧ sect ≠ .proceed place ∨
      (∃ key lease value, sect = .campaign key lease value ∧ call = { key, lease, value }) ∨
      ∃ earlier, sect = .proceed place ∧ traffic.calls[place]? = some earlier ∧
        Call.Stepped traffic.coordinator earlier next.coordinator call := by
  cases performed with
  | began key lease value =>
      rw [List.getElem?_append] at found
      split at found
      · exact .inl ⟨found, by simp⟩
      · have fresh := List.mem_singleton.mp (List.mem_of_getElem? found)
        exact .inr (.inl ⟨key, lease, value, rfl, fresh⟩)
  | @proceeded other earlier later moved stood stepped =>
      by_cases same : other = place
      · subst same
        have bound := (List.getElem?_eq_some_iff.mp stood).1
        rw [List.getElem?_set_self bound] at found
        cases found
        exact .inr (.inr ⟨earlier, rfl, stood, stepped⟩)
      · rw [List.getElem?_set_ne same] at found
        exact .inl ⟨found, by simp [same]⟩
  | _ => exact .inl ⟨found, by simp⟩

end Performed

/-! Runs in which no session is ended around a campaign. -/

/-- No session is withdrawn while a campaign on it has still to enter its candidate, and none is
campaigned on between its withdrawal and the signal of its end. -/
def IsTimely (traffic : Traffic) : Section → Prop
  | .campaign _ lease _ => lease ∉ traffic.ending
  | .withdraw lease => traffic.coordinator.isLive lease = true →
      ∀ call ∈ traffic.calls, call.lease = lease → call.phase ≠ .entering
  | _ => True

instance (traffic : Traffic) : (sect : Section) → Decidable (traffic.IsTimely sect)
  | .campaign _ lease _ => inferInstanceAs (Decidable (lease ∉ traffic.ending))
  | .withdraw lease => inferInstanceAs (Decidable (traffic.coordinator.isLive lease = true →
      ∀ call ∈ traffic.calls, call.lease = lease → call.phase ≠ .entering))
  | .create | .failNext _ | .proceed _ | .signalEnd _ | .announceEnd =>
    inferInstanceAs (Decidable True)

def performTimely? (traffic : Traffic) (sect : Section) : Option Traffic :=
  if traffic.IsTimely sect then traffic.perform? sect else none

def followTimely? (traffic : Traffic) (sections : List Section) : Option Traffic :=
  sections.foldlM performTimely? traffic

/-- What holds of calls on sessions that end in time. A call that waits has its place in the
queue while its session lives, and it sleeps behind another unless a change is on its way. -/
structure Vigilant (traffic : Traffic) : Prop where
  sound : traffic.Sound
  prompt : ∀ call ∈ traffic.calls, call.phase = .entering → call.lease ∉ traffic.ending
  unstranded : ∀ key lease, ¬traffic.Stranded key lease
  entered : ∀ call ∈ traffic.calls, call.isWaiting = true →
    traffic.coordinator.isLive call.lease = true →
      traffic.coordinator.Enters call.key call.lease
  seen : ∀ call ∈ traffic.calls, ∀ seen, call.phase = .checking seen ∨ call.phase = .parked seen →
    seen ≤ traffic.coordinator.version
  behind : ∀ call ∈ traffic.calls, call.phase = .parked traffic.coordinator.version →
    traffic.coordinator.isLive call.lease = true → traffic.IsCalm →
      traffic.coordinator.isFront call.key call.lease = false

theorem start_vigilant : Vigilant {} where
  sound := start_sound
  prompt := by simp
  unstranded := by simp [Stranded, Coordinator.Enters]
  entered := by simp
  seen := by simp
  behind := by simp

theorem Vigilant.leader (vigilant : traffic.Vigilant)
    (enters : traffic.coordinator.Enters key lease) :
    ∃ leader, traffic.coordinator.leaderLease? key = some leader ∧
      traffic.coordinator.isLive leader = true := by
  obtain ⟨leader, leads⟩ := Coordinator.exists_leaderLease? enters
  refine ⟨leader, leads, ?_⟩
  rw [← Bool.not_eq_false]
  exact fun dead => vigilant.unstranded key leader ⟨leaderLease?_enters leads, dead⟩

section

variable (vigilant : traffic.Vigilant) (performed : Performed traffic sect next)
include vigilant performed

theorem Vigilant.prompt_performed (timely : traffic.IsTimely sect) :
    ∀ call ∈ next.calls, call.phase = .entering → call.lease ∉ next.ending := by
  intro call member entering ending
  obtain ⟨place, found⟩ := List.mem_iff_getElem?.mp member
  rcases performed.call_cases found with ⟨old, _⟩ | ⟨key, lease, value, rfl, rfl⟩ |
    ⟨earlier, _, _, stepped⟩
  · have prompt := vigilant.prompt call (List.mem_of_getElem? old) entering
    cases performed with
    | withdrew lease =>
        split at ending
        · rename_i live
          rcases List.mem_cons.mp ending with same | earlier
          · exact timely live call (List.mem_of_getElem? old) same entering
          · exact prompt earlier
        · exact prompt ending
    | signalled => exact prompt (List.mem_filter.mp ending).1
    | _ => exact prompt ending
  · cases performed
    exact timely ending
  · exact absurd entering stepped.entered_before

theorem Vigilant.entered_performed : ∀ call ∈ next.calls, call.isWaiting = true →
    next.coordinator.isLive call.lease = true →
      next.coordinator.Enters call.key call.lease := by
  intro call member waits live
  obtain ⟨place, found⟩ := List.mem_iff_getElem?.mp member
  rcases performed.call_cases found with ⟨stood, _⟩ | ⟨key, lease, value, rfl, rfl⟩ |
    ⟨earlier, _, stood, stepped⟩
  · have old := List.mem_of_getElem? stood
    have lived := performed.succeeds.live _ (vigilant.sound.calls call old).2 live
    exact performed.enters (vigilant.entered call old waits lived) live
  · simp [Call.isWaiting] at waits
  · have old := List.mem_of_getElem? stood
    rw [stepped.lease] at live
    have lived := performed.succeeds.live _ (vigilant.sound.calls earlier old).2 live
    exact stepped.enters waits fun waited => vigilant.entered earlier old waited lived

theorem Vigilant.seen_performed : ∀ call ∈ next.calls, ∀ seen,
    call.phase = .checking seen ∨ call.phase = .parked seen →
      seen ≤ next.coordinator.version := by
  intro call member seen sees
  obtain ⟨place, found⟩ := List.mem_iff_getElem?.mp member
  rcases performed.call_cases found with ⟨stood, _⟩ | ⟨key, lease, value, rfl, rfl⟩ |
    ⟨earlier, _, stood, stepped⟩
  · have saw := vigilant.seen call (List.mem_of_getElem? stood) seen sees
    exact Nat.le_trans saw performed.version
  · simp at sees
  · exact stepped.seen sees fun version checked =>
      vigilant.seen earlier (List.mem_of_getElem? stood) version (.inl checked)

theorem Vigilant.behind_performed : ∀ call ∈ next.calls,
    call.phase = .parked next.coordinator.version →
      next.coordinator.isLive call.lease = true → next.IsCalm →
        next.coordinator.isFront call.key call.lease = false := by
  intro call member sleeps live calm
  obtain ⟨place, found⟩ := List.mem_iff_getElem?.mp member
  rcases performed.call_cases found with ⟨stood, _⟩ | ⟨key, lease, value, rfl, rfl⟩ |
    ⟨earlier, _, stood, stepped⟩
  · -- The call slept before, with nothing announced since, so whoever was in front still is.
    have old := List.mem_of_getElem? stood
    have unchanged : next.coordinator.version = traffic.coordinator.version := by
      have saw := vigilant.seen call old _ (.inr sleeps)
      have grown := performed.version
      omega
    obtain ⟨calmBefore, survives⟩ := performed.calm calm unchanged
    have lived := performed.succeeds.live _ (vigilant.sound.calls call old).2 live
    have waits : call.isWaiting = true := by simp [Call.isWaiting, Call.isPending, sleeps]
    obtain ⟨leader, leads, leaderLive⟩ := vigilant.leader (vigilant.entered call old waits lived)
    have behind := vigilant.behind call old (unchanged ▸ sleeps) lived calmBefore
    have issued := (vigilant.sound.live leader leaderLive).1.2
    have leadsStill := performed.succeeds.front call.key leader issued
      (survives leader leaderLive) ((Coordinator.isFront_iff _ _ _).mpr leads)
    rw [Coordinator.isFront_iff] at leadsStill
    rw [Coordinator.isFront, leads] at behind
    rw [Coordinator.isFront, leadsStill]
    exact behind
  · simp at sleeps
  · exact stepped.behind sleeps

end

theorem Vigilant.performTimely? (vigilant : traffic.Vigilant)
    (performed : traffic.performTimely? sect = some next) : next.Vigilant := by
  simp only [Traffic.performTimely?, Option.ite_none_right_eq_some] at performed
  obtain ⟨timely, performed⟩ := performed
  have did := perform?_performed performed
  refine ⟨vigilant.sound.perform? performed, vigilant.prompt_performed did timely, ?_,
    vigilant.entered_performed did, vigilant.seen_performed did, vigilant.behind_performed did⟩
  intro key lease stranded
  rcases (vigilant.sound.stranded_perform? performed).mp stranded with ⟨before, _⟩ |
    ⟨place, _, ending, call, found, entering, _, rfl⟩
  · exact vigilant.unstranded key lease before
  · exact vigilant.prompt call (List.mem_of_getElem? found) entering ending

/-! Calls that return. -/

/-- A call has won at its last look at the queue, which found its session at the front. -/
def WonAtFront (sections : List Section) (place : Nat) (call : Call) : Prop :=
  ∃ before after reached seen, sections = before ++ .proceed place :: after ∧
    .proceed place ∉ after ∧ ({} : Traffic).follow? before = some reached ∧
    reached.calls[place]? = some { call with phase := .checking seen } ∧
    reached.coordinator.hasEnded call.lease = false ∧
    reached.coordinator.isFront call.key call.lease = true

theorem won_at_front (followed : ({} : Traffic).follow? sections = some last)
    (found : last.calls[place]? = some call) (won : call.phase = .won) :
    WonAtFront sections place call := by
  revert found won
  refine @history_induction _ _ perform? _ _ (fun sections last =>
    last.calls[place]? = some call → call.phase = .won → WonAtFront sections place call) _ ?_
      followed (by simp)
  intro sections sect reached last ran performed ih found won
  rcases (perform?_performed performed).call_cases found with ⟨stood, other⟩ |
    ⟨key, lease, value, rfl, rfl⟩ | ⟨earlier, rfl, stood, stepped⟩
  · obtain ⟨before, after, checked, seen, rfl, last, rest⟩ := ih stood won
    refine ⟨before, after ++ [sect], checked, seen, by simp, ?_, rest⟩
    simpa [last] using other.symm
  · simp at won
  · obtain ⟨seen, rfl, unended, front⟩ := stepped.at_front won
    exact ⟨sections, [], reached, seen, rfl, by simp, ran, stood, unended, front⟩

/-- No call can take its next step. -/
def IsQuiet (traffic : Traffic) : Prop :=
  (∀ place, traffic.perform? (.proceed place) = none) ∧
    (∀ lease, traffic.perform? (.signalEnd lease) = none) ∧ traffic.perform? .announceEnd = none

theorem IsQuiet.calm (quiet : traffic.IsQuiet) : traffic.IsCalm := by
  obtain ⟨_, signalled, announced⟩ := quiet
  constructor
  · refine List.eq_nil_iff_forall_not_mem.mpr fun lease ending => ?_
    simpa [perform?, ending] using signalled lease
  · simp only [perform?] at announced
    split at announced
    · assumption
    · simp at announced

theorem IsQuiet.step? (quiet : traffic.IsQuiet) (member : call ∈ traffic.calls) :
    call.step? traffic.coordinator = none := by
  obtain ⟨place, found⟩ := List.mem_iff_getElem?.mp member
  have stuck := quiet.1 place
  simp only [perform?, found, Option.bind_eq_bind, Option.bind_some] at stuck
  cases went : call.step? traffic.coordinator with
  | none => rfl
  | some reached => simp [went] at stuck

theorem parked_of_step?_eq_none {coordinator : Coordinator} (pending : call.isPending = true)
    (stuck : call.step? coordinator = none) :
    call.phase = .parked coordinator.version ∧ coordinator.hasEnded call.lease = false := by
  cases phase : call.phase with
  | parked seen =>
      simp only [Call.step?, phase] at stuck
      split at stuck
      · simp at stuck
      · split at stuck
        · simp at stuck
        · simp_all
  | checking seen =>
      simp only [Call.step?, phase] at stuck
      split at stuck
      · simp at stuck
      · split at stuck <;> simp at stuck
  | entering =>
      simp only [Call.step?, phase] at stuck
      split at stuck <;> simp at stuck
  | announcing => simp [Call.step?, phase] at stuck
  | subscribing => simp [Call.step?, phase] at stuck
  | won => simp [Call.isPending, phase] at pending
  | failed => simp [Call.isPending, phase] at pending

theorem vigilant_of_followTimely? (followed : ({} : Traffic).followTimely? sections = some last) :
    last.Vigilant :=
  run_induction (fun _ _ _ _ performed vigilant => vigilant.performTimely? performed) followed
    start_vigilant

theorem followTimely?_follow? {start : Traffic}
    (followed : start.followTimely? sections = some last) :
    start.follow? sections = some last := by
  induction sections generalizing start with
  | nil => exact followed
  | cons sect sections ih =>
      simp only [followTimely?, List.foldlM_cons, bind, Option.bind_eq_some_iff, performTimely?,
        Option.ite_none_right_eq_some] at followed
      obtain ⟨reached, ⟨_, performed⟩, followed⟩ := followed
      simp only [follow?, List.foldlM_cons, bind, Option.bind_eq_some_iff]
      exact ⟨reached, performed, ih followed⟩

/-- Whatever order the sections of calls come in: as long as no session is ended around a campaign
that has still to enter, a call that has seen the last announcement does not sleep at the front of
its queue with a live session, unless an end is still to be announced. Once no call can go on, each
that is not over has a live session, and waits behind another one that is live. And a call wins
only by a look that finds it at the front. -/
theorem no_wakeup_lost (followed : ({} : Traffic).followTimely? sections = some last) :
    (∀ call ∈ last.calls, call.phase = .parked last.coordinator.version →
      last.coordinator.isLive call.lease = true → last.IsCalm →
        last.coordinator.isFront call.key call.lease = false) ∧
    (last.IsQuiet → ∀ call ∈ last.calls, call.isPending = true →
      last.coordinator.isLive call.lease = true ∧
        ∃ leader, last.coordinator.leaderLease? call.key = some leader ∧ leader ≠ call.lease ∧
          last.coordinator.isLive leader = true) ∧
    (∀ place call, last.calls[place]? = some call → call.phase = .won →
      WonAtFront sections place call) := by
  have vigilant := vigilant_of_followTimely? followed
  refine ⟨vigilant.behind, ?_, ?_⟩
  · intro quiet call member pending
    obtain ⟨sleeps, unended⟩ := parked_of_step?_eq_none pending (quiet.step? member)
    have live : last.coordinator.isLive call.lease = true := by
      rcases vigilant.sound.whole call.lease (vigilant.sound.calls call member) with live |
        ending | ended
      · exact live
      · simp [quiet.calm.1] at ending
      · simp [unended] at ended
    refine ⟨live, ?_⟩
    have waits : call.isWaiting = true := by simp [Call.isWaiting, pending, sleeps]
    obtain ⟨leader, leads, leaderLive⟩ :=
      vigilant.leader (vigilant.entered call member waits live)
    refine ⟨leader, leads, ?_, leaderLive⟩
    rintro rfl
    have behind := vigilant.behind call member sleeps live quiet.calm
    simp [Coordinator.isFront, leads] at behind
  · intro place call found won
    exact won_at_front (followTimely?_follow? followed) found won

end Traffic

/-- Two campaigns sleep behind the first. Its session ends, the second takes over, and the third
goes back to sleep. -/
def relay : List Section :=
  [.create, .create, .create, .campaign "e" 1 "a", .proceed 0, .proceed 0, .proceed 0, .proceed 0,
    .campaign "e" 2 "b", .campaign "e" 3 "c", .proceed 1, .proceed 2, .proceed 1, .proceed 2,
    .proceed 1, .proceed 2, .proceed 1, .proceed 2, .withdraw 1, .signalEnd 1, .announceEnd,
    .proceed 2, .proceed 1, .proceed 1, .proceed 2]

theorem relay_wakes_second :
    ∃ last, ({} : Traffic).followTimely? relay = some last ∧ last.IsQuiet ∧
      Traffic.WonAtFront relay 1 { key := "e", lease := 2, value := "b", phase := .won } ∧
      ∃ leader, last.coordinator.leaderLease? "e" = some leader ∧ leader ≠ 3 ∧
        last.coordinator.isLive leader = true := by
  obtain ⟨last, followed, quiet, second, third⟩ : ∃ last,
      ({} : Traffic).followTimely? relay = some last ∧ last.IsQuiet ∧
        last.calls[1]? = some { key := "e", lease := 2, value := "b", phase := .won } ∧
        last.calls[2]? = some { key := "e", lease := 3, value := "c", phase := .parked 4 } := by
    refine ⟨_, rfl, ⟨?_, fun lease => rfl, rfl⟩, rfl, rfl⟩
    rintro (_ | _ | _ | place) <;> rfl
  obtain ⟨_, atRest, wins⟩ := Traffic.no_wakeup_lost followed
  refine ⟨last, followed, quiet, wins 1 _ second rfl, ?_⟩
  exact (atRest quiet _ (List.mem_of_getElem? third) rfl).2

end Rota.Election
