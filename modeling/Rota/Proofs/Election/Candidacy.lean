import Mathlib.Data.List.Induction
import Rota.Election.Campaign
import Rota.Proofs.Election.Succession
import Rota.Proofs.Run

/-!
Calls of many threads on one coordination service, section by section. Ending a session withdraws
its candidacies before it signals the end, and a campaign asks for the signal only. Main
statement: a candidate is left without a live session exactly when it was entered between the two.
-/

namespace Rota.Election

/-- The service with the calls that are under way on it. -/
structure Traffic where
  coordinator : Coordinator := {}
  calls : List Call := []
  /-- Sessions that have been withdrawn and whose end has still to be signalled. -/
  ending : List Lease := []
  /-- Ends that have been signalled and are still to be announced. -/
  unannounced : Nat := 0
deriving DecidableEq, Repr

inductive Section where
  | create
  | failNext (count : Nat)
  | campaign (key : String) (lease : Lease) (value : String)
  /-- The next section of a campaign: it enters its candidate, announces it, or looks whether it
  has come to the front. -/
  | proceed (call : Nat)
  | withdraw (lease : Lease)
  | signalEnd (lease : Lease)
  | announceEnd
deriving DecidableEq, Repr

namespace Coordinator

def Issued (coordinator : Coordinator) (lease : Lease) : Prop :=
  0 < lease ∧ lease < coordinator.nextLease

instance (coordinator : Coordinator) (lease : Lease) : Decidable (coordinator.Issued lease) :=
  inferInstanceAs (Decidable (_ ∧ _))

def Enters (coordinator : Coordinator) (key : String) (lease : Lease) : Prop :=
  ∃ candidate ∈ coordinator.candidates, candidate.key = key ∧ candidate.lease = lease

theorem mem_enlisted {candidate other : Candidate} {candidates : List Candidate}
    (member : other ∈ enlisted candidate candidates) : other = candidate ∨ other ∈ candidates := by
  induction candidates with
  | nil => exact .inl (List.mem_singleton.mp member)
  | cons first candidates ih =>
      simp only [enlisted] at member
      split at member
      · rcases List.mem_cons.mp member with rfl | later
        · exact .inl rfl
        · exact .inr (List.mem_cons_of_mem _ later)
      · rcases List.mem_cons.mp member with rfl | later
        · exact .inr List.mem_cons_self
        · exact (ih later).imp_right (List.mem_cons_of_mem _)

theorem mem_enlisted_self (candidate : Candidate) (candidates : List Candidate) :
    candidate ∈ enlisted candidate candidates := by
  induction candidates with
  | nil => exact List.mem_cons_self
  | cons first candidates ih =>
      simp only [enlisted]
      split
      · exact List.mem_cons_self
      · exact List.mem_cons_of_mem _ ih

/-- Who is replaced comes back with the same session in the same election. -/
theorem mem_enlisted_of_mem {candidate other : Candidate} {candidates : List Candidate}
    (member : other ∈ candidates) : other ∈ enlisted candidate candidates ∨
      other.key = candidate.key ∧ other.lease = candidate.lease := by
  induction candidates with
  | nil => cases member
  | cons first candidates ih =>
      simp only [enlisted]
      split
      · rename_i same
        simp only [Bool.and_eq_true, beq_iff_eq] at same
        rcases List.mem_cons.mp member with rfl | later
        · exact .inr same
        · exact .inl (List.mem_cons_of_mem _ later)
      · rcases List.mem_cons.mp member with rfl | later
        · exact .inl List.mem_cons_self
        · exact (ih later).imp_left (List.mem_cons_of_mem _)

theorem enters_enlisted {coordinator : Coordinator} {candidate : Candidate} {key : String}
    {lease : Lease} :
    { coordinator with candidates := enlisted candidate coordinator.candidates }.Enters key lease ↔
      coordinator.Enters key lease ∨ candidate.key = key ∧ candidate.lease = lease := by
  constructor
  · rintro ⟨other, member, same⟩
    rcases mem_enlisted member with rfl | old
    · exact .inr same
    · exact .inl ⟨other, old, same⟩
  · rintro (⟨other, member, sameKey, sameLease⟩ | same)
    · rcases mem_enlisted_of_mem member with kept | ⟨candidateKey, candidateLease⟩
      · exact ⟨other, kept, sameKey, sameLease⟩
      · exact ⟨candidate, mem_enlisted_self _ _, candidateKey ▸ sameKey,
          candidateLease ▸ sameLease⟩
    · exact ⟨candidate, mem_enlisted_self _ _, same⟩

theorem enters_withdraw {coordinator : Coordinator} {ending lease : Lease} {key : String} :
    (coordinator.withdraw ending).Enters key lease ↔
      coordinator.Enters key lease ∧ lease ≠ ending := by
  constructor
  · rintro ⟨candidate, member, sameKey, rfl⟩
    obtain ⟨old, differ⟩ := List.mem_filter.mp member
    exact ⟨⟨candidate, old, sameKey, rfl⟩, by simpa using differ⟩
  · rintro ⟨⟨candidate, member, sameKey, rfl⟩, differ⟩
    exact ⟨candidate, List.mem_filter.mpr ⟨member, by simpa using differ⟩, sameKey, rfl⟩

theorem hasEnded_signalEnd (coordinator : Coordinator) (ending lease : Lease) :
    (coordinator.signalEnd ending).hasEnded lease =
      (decide (lease = ending) || coordinator.hasEnded lease) := by
  simp only [hasEnded, signalEnd, List.contains_cons]
  by_cases same : lease = ending <;> simp [same]

end Coordinator

namespace Call

/-- What the next section of a campaign does. -/
inductive Stepped (coordinator : Coordinator) (call : Call) : Coordinator → Call → Prop
  | entered : call.phase = .entering → coordinator.hasEnded call.lease = false →
      Stepped coordinator call
        { coordinator with
          candidates := Coordinator.enlisted
            { key := call.key, lease := call.lease, value := call.value } coordinator.candidates }
        { call with phase := .announcing }
  | announced : call.phase = .announcing →
      Stepped coordinator call coordinator.announce { call with phase := .subscribing }
  | subscribed : call.phase = .subscribing →
      Stepped coordinator call coordinator { call with phase := .checking coordinator.version }
  | won {seen} : call.phase = .checking seen → coordinator.hasEnded call.lease = false →
      coordinator.isFront call.key call.lease = true →
      Stepped coordinator call coordinator { call with phase := .won }
  | parked {seen} : call.phase = .checking seen → coordinator.hasEnded call.lease = false →
      coordinator.isFront call.key call.lease = false →
      Stepped coordinator call coordinator { call with phase := .parked seen }
  | woken {seen} : call.phase = .parked seen → coordinator.version ≠ seen →
      Stepped coordinator call coordinator { call with phase := .checking coordinator.version }
  | failed : coordinator.hasEnded call.lease = true →
      Stepped coordinator call coordinator { call with phase := .failed .sessionClosed }

theorem step?_stepped {coordinator later : Coordinator} {call next : Call}
    (stepped : call.step? coordinator = some (later, next)) :
    Stepped coordinator call later next := by
  simp only [step?] at stepped
  split at stepped
  · rename_i entering
    cases ended : coordinator.hasEnded call.lease with
    | true =>
        simp only [Coordinator.enlist, ended, if_true, Option.some.injEq, Prod.mk.injEq] at stepped
        obtain ⟨rfl, rfl⟩ := stepped
        exact .failed ended
    | false =>
        simp only [Coordinator.enlist, ended, Bool.false_eq_true, if_false, Option.some.injEq,
          Prod.mk.injEq] at stepped
        obtain ⟨rfl, rfl⟩ := stepped
        exact .entered entering ended
  · rename_i announcing
    cases stepped
    exact .announced announcing
  · rename_i subscribing
    cases stepped
    exact .subscribed subscribing
  · rename_i seen checking
    split at stepped
    · rename_i ended
      cases stepped
      exact .failed ended
    · rename_i going
      split at stepped
      · rename_i front
        cases stepped
        exact .won checking (Bool.eq_false_iff.mpr going) front
      · rename_i behind
        cases stepped
        exact .parked checking (Bool.eq_false_iff.mpr going) (Bool.eq_false_iff.mpr behind)
  · rename_i seen parked
    split at stepped
    · rename_i changed
      cases stepped
      exact .woken parked (by simpa using changed)
    · split at stepped
      · rename_i ended
        cases stepped
        exact .failed ended
      · simp at stepped
  · simp at stepped
  · simp at stepped

theorem Stepped.lease {coordinator later : Coordinator} {call next : Call}
    (stepped : Stepped coordinator call later next) : next.lease = call.lease := by
  cases stepped <;> rfl

end Call

namespace Traffic

def perform? (traffic : Traffic) : Section → Option Traffic
  | .create => some { traffic with coordinator := traffic.coordinator.createSession.2 }
  | .failNext count => some { traffic with coordinator := traffic.coordinator.failNext count }
  | .campaign key lease value =>
    if traffic.coordinator.Issued lease then
      some { traffic with calls := traffic.calls ++ [{ key, lease, value }] }
    else none
  | .proceed place => do
    let call ← traffic.calls[place]?
    let (coordinator, next) ← call.step? traffic.coordinator
    return { traffic with coordinator, calls := traffic.calls.set place next }
  | .withdraw lease =>
    some { traffic with
      coordinator := traffic.coordinator.withdraw lease
      ending := if traffic.coordinator.isLive lease then lease :: traffic.ending
        else traffic.ending }
  | .signalEnd lease =>
    if lease ∈ traffic.ending then
      some { traffic with
        coordinator := traffic.coordinator.signalEnd lease
        ending := traffic.ending.filter (· != lease)
        unannounced := traffic.unannounced + 1 }
    else none
  | .announceEnd =>
    match traffic.unannounced with
    | 0 => none
    | unannounced + 1 =>
      some { traffic with coordinator := traffic.coordinator.announce, unannounced }

def follow? (traffic : Traffic) (sections : List Section) : Option Traffic :=
  sections.foldlM perform? traffic

/-- No end of a session is under way. -/
def IsCalm (traffic : Traffic) : Prop := traffic.ending = [] ∧ traffic.unannounced = 0

/-- A session that is not live has a candidate in an election. -/
def Stranded (traffic : Traffic) (key : String) (lease : Lease) : Prop :=
  traffic.coordinator.Enters key lease ∧ traffic.coordinator.isLive lease = false

/-- A campaign is about to enter a candidate whose session has been withdrawn, but whose end has
not been signalled. -/
def IsLate (traffic : Traffic) (place : Nat) (key : String) (lease : Lease) : Prop :=
  lease ∈ traffic.ending ∧ ∃ call, traffic.calls[place]? = some call ∧ call.phase = .entering ∧
    call.key = key ∧ call.lease = lease

/-- A campaign came late, and its session has not been withdrawn again. -/
def EntersLate (start : Traffic) (sections : List Section) (key : String) (lease : Lease) : Prop :=
  ∃ before place after reached, sections = before ++ .proceed place :: after ∧
    start.follow? before = some reached ∧ reached.IsLate place key lease ∧
    .withdraw lease ∉ after

/-- Each session that was opened is live, or has been withdrawn, or its end has been signalled. -/
structure Sound (traffic : Traffic) : Prop where
  positive : 0 < traffic.coordinator.nextLease
  live : ∀ lease, traffic.coordinator.isLive lease = true →
    traffic.coordinator.Issued lease ∧ traffic.coordinator.hasEnded lease = false
  ending : ∀ lease ∈ traffic.ending, traffic.coordinator.Issued lease ∧
    traffic.coordinator.isLive lease = false ∧ traffic.coordinator.hasEnded lease = false
  ended : ∀ lease, traffic.coordinator.hasEnded lease = true → traffic.coordinator.Issued lease
  whole : ∀ lease, traffic.coordinator.Issued lease → traffic.coordinator.isLive lease = true ∨
    lease ∈ traffic.ending ∨ traffic.coordinator.hasEnded lease = true
  entered : ∀ candidate ∈ traffic.coordinator.candidates,
    traffic.coordinator.Issued candidate.lease
  calls : ∀ call ∈ traffic.calls, traffic.coordinator.Issued call.lease

variable {traffic next : Traffic}

theorem start_sound : Sound {} where
  positive := Int.one_pos
  live := by simp [Coordinator.isLive]
  ending := by simp
  ended := by simp [Coordinator.hasEnded]
  whole := by
    intro lease issued
    exact absurd issued.2 (Int.not_lt.mpr (Int.add_one_le_of_lt issued.1))
  entered := by simp
  calls := by simp

/-- The service goes on with the sessions that it had. -/
theorem Sound.of_coordinator (sound : traffic.Sound)
    (issued : next.coordinator.nextLease = traffic.coordinator.nextLease)
    (live : next.coordinator.live = traffic.coordinator.live)
    (ended : next.coordinator.ended = traffic.coordinator.ended)
    (ending : next.ending = traffic.ending)
    (entered : ∀ candidate ∈ next.coordinator.candidates,
      traffic.coordinator.Issued candidate.lease)
    (called : ∀ call ∈ next.calls, traffic.coordinator.Issued call.lease) : next.Sound := by
  have sameIssued (lease : Lease) :
      next.coordinator.Issued lease ↔ traffic.coordinator.Issued lease := by
    rw [Coordinator.Issued, Coordinator.Issued, issued]
  have sameLive (lease : Lease) :
      next.coordinator.isLive lease = traffic.coordinator.isLive lease := by
    rw [Coordinator.isLive, Coordinator.isLive, live]
  have sameEnded (lease : Lease) :
      next.coordinator.hasEnded lease = traffic.coordinator.hasEnded lease := by
    rw [Coordinator.hasEnded, Coordinator.hasEnded, ended]
  refine ⟨issued ▸ sound.positive, ?_, ?_, ?_, ?_, ?_, ?_⟩
  · intro lease
    simp only [sameIssued, sameLive, sameEnded]
    exact sound.live lease
  · intro lease member
    simp only [sameIssued, sameLive, sameEnded]
    exact sound.ending lease (ending ▸ member)
  · intro lease
    simp only [sameIssued, sameEnded]
    exact sound.ended lease
  · intro lease
    simp only [sameIssued, sameLive, sameEnded, ending]
    exact sound.whole lease
  · intro candidate member
    exact (sameIssued _).mpr (entered candidate member)
  · intro call member
    exact (sameIssued _).mpr (called call member)

theorem Sound.created (sound : traffic.Sound) :
    Sound { traffic with coordinator := traffic.coordinator.createSession.2 } := by
  simp only [Coordinator.createSession]
  split
  · exact sound.of_coordinator rfl rfl rfl rfl sound.entered sound.calls
  · have still {lease : Lease} (issued : traffic.coordinator.Issued lease) :
        0 < lease ∧ lease < traffic.coordinator.nextLease + 1 :=
      ⟨issued.1, Int.lt_add_one_of_le (Int.le_of_lt issued.2)⟩
    refine ⟨Int.lt_trans sound.positive (Int.lt_succ _), ?_, ?_, ?_, ?_, ?_, ?_⟩
    · intro lease live
      rw [Coordinator.isLive_iff, List.mem_append, List.mem_singleton] at live
      rcases live with old | rfl
      · obtain ⟨issued, unended⟩ := sound.live lease ((Coordinator.isLive_iff _ _).mpr old)
        exact ⟨still issued, unended⟩
      · refine ⟨⟨sound.positive, Int.lt_succ _⟩, ?_⟩
        apply Bool.eq_false_iff.mpr
        intro ended
        exact Int.lt_irrefl _ (sound.ended _ ended).2
    · intro lease member
      obtain ⟨issued, dead, unended⟩ := sound.ending lease member
      refine ⟨still issued, ?_, unended⟩
      have fresh : lease ≠ traffic.coordinator.nextLease := Int.ne_of_lt issued.2
      simpa [Coordinator.isLive, fresh] using dead
    · intro lease ended
      exact still (sound.ended lease ended)
    · intro lease issued
      by_cases fresh : lease = traffic.coordinator.nextLease
      · left
        simp [Coordinator.isLive, fresh]
      · have old : traffic.coordinator.Issued lease :=
          ⟨issued.1, Int.lt_iff_le_and_ne.mpr ⟨Int.lt_add_one_iff.mp issued.2, fresh⟩⟩
        refine (sound.whole lease old).imp_left ?_
        intro live
        simp only [Coordinator.isLive_iff, List.mem_append] at live ⊢
        exact .inl live
    · intro candidate member
      exact still (sound.entered candidate member)
    · intro call member
      exact still (sound.calls call member)

theorem Sound.withdrawn (sound : traffic.Sound) (lease : Lease) :
    Sound { traffic with
      coordinator := traffic.coordinator.withdraw lease
      ending := if traffic.coordinator.isLive lease then lease :: traffic.ending
        else traffic.ending } := by
  have dead {other : Lease} (gone : traffic.coordinator.isLive other = false ∨ other = lease) :
      (traffic.coordinator.withdraw lease).isLive other = false := by
    apply Bool.eq_false_iff.mpr
    intro live
    obtain ⟨alive, differ⟩ := (Coordinator.isLive_withdraw _ lease other).mp live
    rcases gone with gone | same
    · simp [alive] at gone
    · exact differ same
  have member {other : Lease} : (other ∈ if traffic.coordinator.isLive lease then
      lease :: traffic.ending else traffic.ending) ↔
        other ∈ traffic.ending ∨ other = lease ∧ traffic.coordinator.isLive lease = true := by
    cases traffic.coordinator.isLive lease with
    | true => simp [or_comm]
    | false => simp
  refine ⟨sound.positive, ?_, ?_, sound.ended, ?_, ?_, sound.calls⟩
  · intro other live
    exact sound.live other ((Coordinator.isLive_withdraw _ lease other).mp live).1
  · intro other ending
    rcases member.mp ending with old | ⟨rfl, live⟩
    · obtain ⟨issued, gone, unended⟩ := sound.ending other old
      exact ⟨issued, dead (.inl gone), unended⟩
    · obtain ⟨issued, unended⟩ := sound.live other live
      exact ⟨issued, dead (.inr rfl), unended⟩
  · intro other issued
    rcases sound.whole other issued with live | ending | ended
    · by_cases same : other = lease
      · exact .inr (.inl (member.mpr (.inr ⟨same, same ▸ live⟩)))
      · exact .inl ((Coordinator.isLive_withdraw _ lease other).mpr ⟨live, same⟩)
    · exact .inr (.inl (member.mpr (.inl ending)))
    · exact .inr (.inr ended)
  · intro candidate left
    exact sound.entered candidate (List.mem_filter.mp left).1

theorem Sound.signalled (sound : traffic.Sound) {lease : Lease} (ending : lease ∈ traffic.ending) :
    Sound { traffic with
      coordinator := traffic.coordinator.signalEnd lease
      ending := traffic.ending.filter (· != lease)
      unannounced := traffic.unannounced + 1 } := by
  refine ⟨sound.positive, ?_, ?_, ?_, ?_, sound.entered, sound.calls⟩
  · intro other live
    have alive : traffic.coordinator.isLive other = true := live
    obtain ⟨issued, unended⟩ := sound.live other alive
    have differ : other ≠ lease := by
      rintro rfl
      simp [(sound.ending other ending).2.1] at alive
    exact ⟨issued, by simp [Coordinator.hasEnded_signalEnd, differ, unended]⟩
  · intro other left
    obtain ⟨old, differ⟩ := List.mem_filter.mp left
    obtain ⟨issued, gone, unended⟩ := sound.ending other old
    have apart : other ≠ lease := by simpa using differ
    exact ⟨issued, gone, by simp [Coordinator.hasEnded_signalEnd, apart, unended]⟩
  · intro other ended
    rw [Coordinator.hasEnded_signalEnd, Bool.or_eq_true, decide_eq_true_eq] at ended
    rcases ended with rfl | old
    · exact (sound.ending other ending).1
    · exact sound.ended other old
  · intro other issued
    by_cases same : other = lease
    · exact .inr (.inr (by simp [Coordinator.hasEnded_signalEnd, same]))
    · rcases sound.whole other issued with live | left | ended
      · exact .inl live
      · exact .inr (.inl (List.mem_filter.mpr ⟨left, by simpa using same⟩))
      · exact .inr (.inr (by simp [Coordinator.hasEnded_signalEnd, ended]))

theorem Sound.perform? (sound : traffic.Sound) {sect : Section}
    (performed : traffic.perform? sect = some next) : next.Sound := by
  cases sect with
  | create =>
      cases performed
      exact sound.created
  | failNext count =>
      cases performed
      exact sound.of_coordinator rfl rfl rfl rfl sound.entered sound.calls
  | campaign key lease value =>
      simp only [Traffic.perform?, Option.ite_none_right_eq_some] at performed
      obtain ⟨issued, performed⟩ := performed
      cases performed
      refine sound.of_coordinator rfl rfl rfl rfl sound.entered ?_
      intro call member
      rcases List.mem_append.mp member with old | fresh
      · exact sound.calls call old
      · rw [List.mem_singleton.mp fresh]
        exact issued
  | proceed place =>
      simp only [Traffic.perform?, bind, Option.bind_eq_some_iff, pure, Option.some.injEq]
        at performed
      obtain ⟨call, found, ⟨later, moved⟩, stepped, rfl⟩ := performed
      have stepped := Call.step?_stepped stepped
      have issued := sound.calls call (List.mem_of_getElem? found)
      have called : ∀ other ∈ traffic.calls.set place moved,
          traffic.coordinator.Issued other.lease := by
        intro other member
        rcases List.mem_or_eq_of_mem_set member with old | rfl
        · exact sound.calls other old
        · rw [stepped.lease]
          exact issued
      cases stepped with
      | entered =>
          refine sound.of_coordinator rfl rfl rfl rfl ?_ called
          intro candidate member
          rcases Coordinator.mem_enlisted member with rfl | old
          · exact issued
          · exact sound.entered candidate old
      | announced => exact sound.of_coordinator rfl rfl rfl rfl sound.entered called
      | _ => exact sound.of_coordinator rfl rfl rfl rfl sound.entered called
  | withdraw lease =>
      cases performed
      exact sound.withdrawn lease
  | signalEnd lease =>
      simp only [Traffic.perform?, Option.ite_none_right_eq_some] at performed
      obtain ⟨ending, performed⟩ := performed
      cases performed
      exact sound.signalled ending
  | announceEnd =>
      simp only [Traffic.perform?] at performed
      split at performed
      · simp at performed
      · cases performed
        exact sound.of_coordinator rfl rfl rfl rfl sound.entered sound.calls

variable {key : String} {lease : Lease}

theorem stranded_created (sound : traffic.Sound) :
    Stranded { traffic with coordinator := traffic.coordinator.createSession.2 } key lease ↔
      traffic.Stranded key lease := by
  simp only [Coordinator.createSession]
  split
  · rfl
  · constructor
    · rintro ⟨entered, dead⟩
      refine ⟨entered, ?_⟩
      apply Bool.eq_false_iff.mpr
      intro live
      apply Bool.eq_false_iff.mp dead
      simp only [Coordinator.isLive_iff, List.mem_append] at live ⊢
      exact .inl live
    · rintro ⟨entered, dead⟩
      refine ⟨entered, ?_⟩
      obtain ⟨candidate, member, _, rfl⟩ := entered
      have fresh : candidate.lease ≠ traffic.coordinator.nextLease :=
        Int.ne_of_lt (sound.entered candidate member).2
      simpa [Coordinator.isLive, fresh] using dead

theorem stranded_withdrawn {ending : Lease} {left : List Lease} :
    Stranded { traffic with
      coordinator := traffic.coordinator.withdraw ending, ending := left } key lease ↔
      traffic.Stranded key lease ∧ lease ≠ ending := by
  have dead (differ : lease ≠ ending) : (traffic.coordinator.withdraw ending).isLive lease =
      traffic.coordinator.isLive lease := by
    rw [Bool.eq_iff_iff, Coordinator.isLive_withdraw]
    exact and_iff_left differ
  constructor
  · rintro ⟨entered, gone⟩
    obtain ⟨entered, differ⟩ := Coordinator.enters_withdraw.mp entered
    exact ⟨⟨entered, dead differ ▸ gone⟩, differ⟩
  · rintro ⟨⟨entered, gone⟩, differ⟩
    exact ⟨Coordinator.enters_withdraw.mpr ⟨entered, differ⟩, (dead differ).trans gone⟩

/-- A campaign strands its candidate only when it comes late. -/
theorem Sound.stranded_proceed (sound : traffic.Sound) {place : Nat}
    (performed : traffic.perform? (.proceed place) = some next) :
    next.Stranded key lease ↔ traffic.Stranded key lease ∨ traffic.IsLate place key lease := by
  simp only [Traffic.perform?, bind, Option.bind_eq_some_iff, pure, Option.some.injEq] at performed
  obtain ⟨call, found, ⟨later, moved⟩, stepped, rfl⟩ := performed
  have onTime (phase : call.phase ≠ .entering) : ¬traffic.IsLate place key lease := by
    rintro ⟨_, other, foundToo, entering, _⟩
    obtain rfl := Option.some.inj (found.symm.trans foundToo)
    exact phase entering
  have stepped := Call.step?_stepped stepped
  cases stepped with
  | entered entering unended =>
      have issued := sound.calls call (List.mem_of_getElem? found)
      constructor
      · rintro ⟨entered, dead⟩
        rcases Coordinator.enters_enlisted.mp entered with old | ⟨rfl, rfl⟩
        · exact .inl ⟨old, dead⟩
        · right
          refine ⟨?_, call, found, entering, rfl, rfl⟩
          rcases sound.whole call.lease issued with live | ending | ended
          · exact absurd (live.symm.trans dead) (by simp)
          · exact ending
          · simp [unended] at ended
      · rintro (⟨old, dead⟩ | ⟨ending, other, foundToo, _, rfl, rfl⟩)
        · exact ⟨Coordinator.enters_enlisted.mpr (.inl old), dead⟩
        · obtain rfl := Option.some.inj (found.symm.trans foundToo)
          exact ⟨Coordinator.enters_enlisted.mpr (.inr ⟨rfl, rfl⟩),
            (sound.ending call.lease ending).2.1⟩
  | announced announcing =>
      exact (or_iff_left (onTime (by simp [announcing]))).symm
  | subscribed subscribing =>
      exact (or_iff_left (onTime (by simp [subscribing]))).symm
  | won checking => exact (or_iff_left (onTime (by simp [checking]))).symm
  | parked checking => exact (or_iff_left (onTime (by simp [checking]))).symm
  | woken parked => exact (or_iff_left (onTime (by simp [parked]))).symm
  | failed ended =>
      refine (or_iff_left ?_).symm
      rintro ⟨ending, other, foundToo, _, _, rfl⟩
      obtain rfl := Option.some.inj (found.symm.trans foundToo)
      simp [(sound.ending call.lease ending).2.2] at ended

/-- What one section does to a candidate that no live session stands behind. -/
theorem Sound.stranded_perform? (sound : traffic.Sound) {sect : Section}
    (performed : traffic.perform? sect = some next) :
    next.Stranded key lease ↔ traffic.Stranded key lease ∧ sect ≠ .withdraw lease ∨
      ∃ place, sect = .proceed place ∧ traffic.IsLate place key lease := by
  cases sect with
  | proceed place =>
      rw [sound.stranded_proceed performed]
      simp
  | withdraw ending =>
      cases performed
      rw [stranded_withdrawn]
      simp [eq_comm]
  | create =>
      cases performed
      rw [stranded_created sound]
      simp
  | failNext count =>
      cases performed
      simp [Stranded, Coordinator.failNext, Coordinator.Enters, Coordinator.isLive]
  | campaign key lease value =>
      simp only [Traffic.perform?, Option.ite_none_right_eq_some] at performed
      obtain ⟨_, performed⟩ := performed
      cases performed
      simp [Stranded]
  | signalEnd ended =>
      simp only [Traffic.perform?, Option.ite_none_right_eq_some] at performed
      obtain ⟨_, performed⟩ := performed
      cases performed
      simp [Stranded, Coordinator.signalEnd, Coordinator.Enters, Coordinator.isLive]
  | announceEnd =>
      simp only [Traffic.perform?] at performed
      split at performed
      · simp at performed
      · cases performed
        simp [Stranded, Coordinator.announce, Coordinator.Enters, Coordinator.isLive]

/-! Runs. -/

variable {start last : Traffic} {sections : List Section}

theorem follow?_append {sect : Section} :
    start.follow? (sections ++ [sect]) = (start.follow? sections).bind (·.perform? sect) := by
  simp only [follow?, List.foldlM_append, List.foldlM_cons, List.foldlM_nil, bind, pure]
  congr 1
  funext reached
  exact Option.bind_fun_some _

theorem entersLate_append {sect : Section} (followed : start.follow? sections = some last) :
    EntersLate start (sections ++ [sect]) key lease ↔
      EntersLate start sections key lease ∧ sect ≠ .withdraw lease ∨
        ∃ place, sect = .proceed place ∧ last.IsLate place key lease := by
  constructor
  · rintro ⟨before, place, after, reached, split, ran, late, kept⟩
    rcases List.eq_nil_or_concat after with rfl | ⟨after, final, rfl⟩
    · obtain ⟨rfl, same⟩ := List.append_inj' split rfl
      obtain rfl := Option.some.inj (followed.symm.trans ran)
      exact .inr ⟨place, List.head_eq_of_cons_eq same, late⟩
    · rw [List.concat_eq_append] at split kept
      rw [← List.cons_append, ← List.append_assoc] at split
      obtain ⟨rfl, same⟩ := List.append_inj' split rfl
      obtain rfl := List.head_eq_of_cons_eq same
      left
      refine ⟨⟨before, place, after, reached, rfl, ran, late, ?_⟩, ?_⟩
      · exact fun member => kept (List.mem_append_left _ member)
      · rintro rfl
        exact kept (List.mem_append_right _ List.mem_cons_self)
  · rintro (⟨⟨before, place, after, reached, rfl, ran, late, kept⟩, spared⟩ | ⟨place, rfl, late⟩)
    · refine ⟨before, place, after ++ [sect], reached, by simp, ran, late, ?_⟩
      intro member
      rcases List.mem_append.mp member with old | new
      · exact kept old
      · exact spared (List.mem_singleton.mp new).symm
    · exact ⟨sections, place, [], last, rfl, followed, late, by simp⟩

theorem sound_of_follow? (sound : start.Sound) (followed : start.follow? sections = some last) :
    last.Sound :=
  run_induction (fun _ _ _ _ performed sound => sound.perform? performed) followed sound

theorem stranded_iff_entersLate (sound : start.Sound)
    (fresh : ∀ key lease, ¬start.Stranded key lease)
    (followed : start.follow? sections = some last) (key : String) (lease : Lease) :
    last.Stranded key lease ↔ EntersLate start sections key lease := by
  -- Whether a campaign came late is asked of the state before it, and whether its session was
  -- withdrawn again of the sections after it, so the run is taken apart from its end.
  induction sections using List.reverseRecOn generalizing last with
  | nil =>
      obtain rfl := Option.some.inj followed
      constructor
      · exact fun stranded => absurd stranded (fresh key lease)
      · rintro ⟨before, place, after, reached, split, _⟩
        simp at split
  | append_singleton sections sect ih =>
      rw [follow?_append, Option.bind_eq_some_iff] at followed
      obtain ⟨reached, ran, performed⟩ := followed
      rw [(sound_of_follow? sound ran).stranded_perform? performed, ih ran, entersLate_append ran]

theorem leaderLease?_enters {coordinator : Coordinator}
    (leads : coordinator.leaderLease? key = some lease) : coordinator.Enters key lease := by
  rw [Coordinator.leaderLease?_eq_find?, Option.map_eq_some_iff] at leads
  obtain ⟨candidate, found, same⟩ := leads
  exact ⟨candidate, List.mem_of_find?_eq_some found, by simpa using List.find?_some found, same⟩

/-- Whatever order the sections of concurrent calls come in, a candidate is left without a live
session exactly when it was entered between the withdrawal of its session and the signal of its
end; where none is, no election is led by a session that has ended. -/
theorem stranded_iff_late (followed : ({} : Traffic).follow? sections = some last) :
    (∀ key lease, last.Stranded key lease ↔ EntersLate {} sections key lease) ∧
    ((∀ key lease, ¬EntersLate {} sections key lease) →
      (∀ candidate ∈ last.coordinator.candidates,
        last.coordinator.isLive candidate.lease = true) ∧
      ∀ key lease, last.coordinator.leaderLease? key = some lease →
        last.coordinator.isLive lease = true) := by
  have exactly (key : String) (lease : Lease) :=
    stranded_iff_entersLate start_sound (by simp [Stranded, Coordinator.Enters]) followed key lease
  refine ⟨exactly, fun timely => ?_⟩
  have live {key : String} {lease : Lease} (entered : last.coordinator.Enters key lease) :
      last.coordinator.isLive lease = true := by
    rw [← Bool.not_eq_false]
    exact fun dead => timely key lease ((exactly key lease).mp ⟨entered, dead⟩)
  exact ⟨fun candidate member => live ⟨candidate, member, rfl, rfl⟩,
    fun key lease leads => live (leaderLease?_enters leads)⟩

end Traffic

/-- The first session is withdrawn, enters its candidate, and only then hears that it has ended.
The second session campaigns after that and waits behind it. -/
def lateCampaign : List Section :=
  [.create, .create, .campaign "e" 1 "a", .withdraw 1, .proceed 0, .signalEnd 1, .announceEnd,
    .campaign "e" 2 "b", .proceed 1, .proceed 1, .proceed 1, .proceed 1]

theorem late_campaign_blocks_election :
    ∃ last, ({} : Traffic).follow? lateCampaign = some last ∧ last.IsCalm ∧
      ¬(∀ candidate ∈ last.coordinator.candidates,
        last.coordinator.isLive candidate.lease = true) ∧
      last.coordinator.hasEnded 1 = true ∧ last.coordinator.leader? "e" = some "a" ∧
      ∃ waiting, last.calls[1]? = some waiting ∧ waiting.lease = 2 ∧
        last.coordinator.isLive 2 = true ∧ waiting.step? last.coordinator = none := by
  refine ⟨_, rfl, ⟨rfl, rfl⟩, by decide, rfl, rfl, _, rfl, rfl, rfl, rfl⟩

theorem late_campaign_stranded :
    ∃ last, ({} : Traffic).follow? lateCampaign = some last ∧ last.Stranded "e" 1 := by
  obtain ⟨last, followed⟩ : ∃ last, ({} : Traffic).follow? lateCampaign = some last := ⟨_, rfl⟩
  refine ⟨last, followed, ((Traffic.stranded_iff_late followed).1 "e" 1).mpr ?_⟩
  exact ⟨lateCampaign.take 4, 0, lateCampaign.drop 5, _, rfl, rfl,
    ⟨List.mem_cons_self, _, rfl, rfl, rfl, rfl⟩, by decide⟩

end Rota.Election
