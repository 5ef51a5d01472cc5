import Rota.Proofs.Election.Orderly
import Rota.Proofs.Election.Record

/-!
The service by the record of all that was asked of it. Main statement: the queue of an election
holds the sessions that have campaigned in it and have not ended, in the order of their first
campaigns, each with the value of its last.
-/

namespace Rota.Election

def Candidate.place (candidate : Candidate) : String × Lease := (candidate.key, candidate.lease)

namespace Coordinator

variable {coordinator : Coordinator} {candidate other : Candidate} {candidates : List Candidate}

theorem enlisted_cases (candidate : Candidate) (candidates : List Candidate) :
    candidate.place ∉ candidates.map Candidate.place ∧
        enlisted candidate candidates = candidates ++ [candidate] ∨
      ∃ before old after, candidates = before ++ old :: after ∧ old.place = candidate.place ∧
        enlisted candidate candidates = before ++ candidate :: after := by
  induction candidates with
  | nil => exact .inl ⟨by simp, rfl⟩
  | cons first candidates ih =>
      simp only [enlisted]
      by_cases here : first.key = candidate.key ∧ first.lease = candidate.lease
      · rw [if_pos (by simpa using here)]
        exact .inr ⟨[], first, candidates, rfl, Prod.ext here.1 here.2, rfl⟩
      · rw [if_neg (by simpa using here)]
        rcases ih with ⟨absent, last⟩ | ⟨before, old, after, rfl, same, replaced⟩
        · left
          refine ⟨?_, by rw [last, List.cons_append]⟩
          rw [List.map_cons, List.mem_cons, not_or]
          refine ⟨fun same => here ?_, absent⟩
          exact ⟨(congrArg Prod.fst same).symm, (congrArg Prod.snd same).symm⟩
        · right
          exact ⟨first :: before, old, after, rfl, same, by rw [replaced, List.cons_append]⟩

theorem mem_enlisted_iff (distinct : (candidates.map Candidate.place).Nodup) :
    other ∈ enlisted candidate candidates ↔
      other = candidate ∨ other ∈ candidates ∧ other.place ≠ candidate.place := by
  rcases enlisted_cases candidate candidates with
    ⟨absent, last⟩ | ⟨before, old, after, rfl, same, replaced⟩
  · rw [last, List.mem_append, List.mem_singleton, or_comm]
    refine or_congr_right (iff_self_and.mpr fun member equal => absent ?_)
    exact equal ▸ List.mem_map_of_mem member
  · rw [List.map_append, List.map_cons, List.nodup_append] at distinct
    obtain ⟨_, rest, apart⟩ := distinct
    have earlier : ∀ item ∈ before, item.place ≠ candidate.place := by
      intro item member
      exact same ▸ apart _ (List.mem_map_of_mem member) _ List.mem_cons_self
    have later : ∀ item ∈ after, item.place ≠ candidate.place := by
      intro item member equal
      exact (List.nodup_cons.mp rest).1 (same ▸ equal ▸ List.mem_map_of_mem member)
    rw [replaced]
    simp only [List.mem_append, List.mem_cons]
    grind

/-- Who campaigns again keeps the place, and who campaigns first comes last. -/
theorem map_place_enlisted : (enlisted candidate candidates).map Candidate.place =
    if candidate.place ∈ candidates.map Candidate.place then candidates.map Candidate.place
    else candidates.map Candidate.place ++ [candidate.place] := by
  rcases enlisted_cases candidate candidates with
    ⟨absent, last⟩ | ⟨before, old, after, rfl, same, replaced⟩
  · rw [if_neg absent, last, List.map_append, List.map_singleton]
  · rw [if_pos (by simp [← same]), replaced]
    simp [same]

theorem filter_enlisted {other : Candidate → Bool} (excluded : other candidate = false)
    (placed : ∀ old : Candidate, old.place = candidate.place → other old = false) :
    (enlisted candidate candidates).filter other = candidates.filter other := by
  rcases enlisted_cases candidate candidates with
    ⟨_, last⟩ | ⟨before, old, after, rfl, same, replaced⟩
  · simp [last, excluded]
  · simp [replaced, excluded, placed old same]

theorem endSession_candidates (coordinator : Coordinator) (lease : Lease) :
    (coordinator.endSession lease).2.candidates =
      coordinator.candidates.filter (·.lease != lease) := by
  simp only [endSession]
  split <;> rfl

theorem endSession_counters (coordinator : Coordinator) (lease : Lease) :
    (coordinator.endSession lease).2.nextLease = coordinator.nextLease ∧
      (coordinator.endSession lease).2.failing = coordinator.failing := by
  simp only [endSession]
  split <;> exact ⟨rfl, rfl⟩

theorem filter_queue {kept : Candidate → Bool} (key : String) :
    (coordinator.queue key).filter kept =
      (coordinator.candidates.filter kept).filter (·.key == key) := by
  simp only [queue, List.filter_filter, Bool.and_comm]

variable {key value : String} {lease : Lease}

theorem run_campaign_ended (ended : coordinator.hasEnded lease = true) :
    Call.run coordinator { key, lease, value } 5 =
      (coordinator, { key, lease, value, phase := .failed .sessionClosed }) := by
  simp [Call.run, Call.step?, enlist, ended]

theorem run_campaign_unended (key value : String) (unended : coordinator.hasEnded lease = false) :
    ∃ phase, phase ≠ .failed .sessionClosed ∧ Call.run coordinator { key, lease, value } 5 =
      ({ coordinator with
          candidates := enlisted { key, lease, value } coordinator.candidates }.announce,
        { key, lease, value, phase }) := by
  generalize changed : { coordinator with
    candidates := enlisted { key, lease, value } coordinator.candidates } = entered
  have still : entered.announce.hasEnded lease = false := changed ▸ unended
  cases front : entered.announce.isFront key lease with
  | true =>
      refine ⟨.won, by simp, ?_⟩
      simp [Call.run, Call.step?, enlist, unended, changed, still, front]
  | false =>
      refine ⟨.parked entered.announce.version, by simp, ?_⟩
      simp [Call.run, Call.step?, enlist, unended, changed, still, front]

end Coordinator

namespace Request

/-- All that can come of a request. -/
inductive Outcome (coordinator : Coordinator) : Request → Reply → Coordinator → Prop
  | opened : coordinator.failing = 0 →
      Outcome coordinator .create (.created (.ok coordinator.nextLease))
        { coordinator with
          nextLease := coordinator.nextLease + 1
          live := coordinator.live ++ [coordinator.nextLease] }
  | refused {failing} : coordinator.failing = failing + 1 →
      Outcome coordinator .create (.created (.error Coordinator.injectedFailure))
        { coordinator with failing }
  | failing {count} : Outcome coordinator (.failNext count) .done (coordinator.failNext count)
  | rejected {key lease value} : coordinator.hasEnded lease = true →
      Outcome coordinator (.campaign key lease value) (.campaigned (.failed .sessionClosed))
        coordinator
  | entered {key lease value phase} : coordinator.hasEnded lease = false →
      phase ≠ .failed .sessionClosed →
      Outcome coordinator (.campaign key lease value) (.campaigned phase)
        { coordinator with
          candidates := Coordinator.enlisted { key, lease, value }
            coordinator.candidates }.announce
  | expired {lease} : Outcome coordinator (.expire lease) (.expired (coordinator.isLive lease))
      (coordinator.endSession lease).2
  | closed {lease} : Outcome coordinator (.close lease) .done (coordinator.endSession lease).2

theorem serve_outcome (coordinator : Coordinator) (request : Request) :
    Outcome coordinator request (request.serve coordinator).1 (request.serve coordinator).2 := by
  cases request with
  | create =>
      cases count : coordinator.failing with
      | zero =>
          have opened : Outcome coordinator .create _ _ := .opened count
          simpa only [serve, Coordinator.createSession, count] using opened
      | succ failing =>
          have refused : Outcome coordinator .create _ _ := .refused count
          simpa only [serve, Coordinator.createSession, count] using refused
  | failNext count => exact .failing
  | campaign key lease value =>
      cases ended : coordinator.hasEnded lease with
      | true =>
          simp only [serve, Coordinator.run_campaign_ended ended]
          exact .rejected ended
      | false =>
          obtain ⟨phase, unfailed, ran⟩ :=
            Coordinator.run_campaign_unended key value ended
          simp only [serve, ran]
          exact .entered ended unfailed
  | expire lease =>
      have live : (coordinator.endSession lease).1 = coordinator.isLive lease := by
        simp only [Coordinator.endSession]
        split <;> simp_all
      simp only [serve, live]
      exact .expired
  | close lease => exact .closed

variable {coordinator after : Coordinator} {request : Request} {reply : Reply}

theorem Outcome.served (outcome : Outcome coordinator request reply after)
    (possible : request.IsPossible coordinator) : coordinator.Served after := by
  cases outcome with
  | opened unfailing =>
      have served : coordinator.Served coordinator.createSession.2 := .created
      simpa only [Coordinator.createSession, unfailing] using served
  | refused failing =>
      have served : coordinator.Served coordinator.createSession.2 := .created
      simpa only [Coordinator.createSession, failing] using served
  | failing => exact .failing _
  | rejected => exact .kept
  | entered unended => exact .entered possible (by rw [Coordinator.enlist, unended]; rfl)
  | expired => exact .ended _
  | closed => exact .ended _

theorem Outcome.others (outcome : Outcome coordinator request reply after) :
    after.candidates.filter (!request.concerns ·) =
      coordinator.candidates.filter (!request.concerns ·) := by
  have ended (ending : Lease) :
      (coordinator.endSession ending).2.candidates.filter (fun candidate =>
        !(candidate.lease == ending)) = coordinator.candidates.filter fun candidate =>
          !(candidate.lease == ending) := by
    rw [Coordinator.endSession_candidates, List.filter_filter]
    simp [bne]
  cases outcome with
  | opened => rfl
  | refused => rfl
  | failing => rfl
  | rejected => rfl
  | entered =>
      apply Coordinator.filter_enlisted
      · simp [concerns]
      · intro old same
        obtain ⟨sameKey, sameLease⟩ := Prod.mk.inj same
        simp [concerns, sameKey, sameLease]
  | expired => exact ended _
  | closed => exact ended _

end Request

/-- The service is as the record of its requests says. -/
structure Faithful (coordinator : Coordinator) (record : Record) : Prop where
  tidy : coordinator.Tidy
  live : ∀ lease, coordinator.isLive lease = true ↔ record.IsOpen lease
  issued : ∀ key lease, record.Campaigned key lease → coordinator.Issued lease
  entered : ∀ candidate, candidate ∈ coordinator.candidates ↔
    coordinator.isLive candidate.lease = true ∧
      record.LastValue candidate.key candidate.lease candidate.value
  ordered : (coordinator.candidates.map Candidate.place).Pairwise fun first second =>
    first.1 = second.1 → record.Precedes first.1 first.2 second.2
  next : coordinator.nextLease = record.leases.length + 1
  numbered : record.leases =
    (List.range record.leases.length).map fun count : Nat => (count : Lease) + 1
  failing : ∀ few, few < coordinator.failing ↔ record.FailsAfter few
  replied : ∀ before request reply after, record = before ++ (request, reply) :: after →
    Record.Replies before request reply

namespace Faithful

open Record Request

variable {coordinator after : Coordinator} {record : Record} {request : Request} {reply : Reply}

theorem start : Faithful {} [] where
  tidy := Coordinator.start_tidy
  live := by simp [Coordinator.isLive, Record.IsOpen, Since]
  issued := by simp [Campaigned]
  entered := by simp [LastValue, Since]
  ordered := .nil
  next := rfl
  numbered := rfl
  failing := by simp [FailsAfter]
  replied := by simp

theorem distinct (faithful : Faithful coordinator record) :
    (coordinator.candidates.map Candidate.place).Nodup := by
  apply faithful.ordered.imp
  intro first second precedes same
  have places := precedes (congrArg Prod.fst same)
  rw [congrArg Prod.snd same] at places
  exact places.irrefl

theorem live_append (faithful : Faithful coordinator record)
    (outcome : Outcome coordinator request reply after) (lease : Lease) :
    after.isLive lease = true ↔ Record.IsOpen (record ++ [(request, reply)]) lease := by
  rw [isOpen_append, ← faithful.live]
  cases outcome with
  | opened =>
      rw [Coordinator.isLive_iff, Coordinator.isLive_iff, List.mem_append, List.mem_singleton,
        or_comm, @eq_comm _ lease]
      simp
  | refused => simp [Coordinator.isLive]
  | failing => simp [Coordinator.isLive, Coordinator.failNext]
  | rejected => simp
  | entered => simp [Coordinator.isLive, Coordinator.announce]
  | @expired ending =>
      rw [Coordinator.isLive_endSession, ne_comm]
      simp
  | @closed ending =>
      rw [Coordinator.isLive_endSession, ne_comm]
      simp

theorem issued_append (faithful : Faithful coordinator record)
    (outcome : Outcome coordinator request reply after)
    (possible : request.IsPossible coordinator) {key : String} {lease : Lease}
    (campaigned : Campaigned (record ++ [(request, reply)]) key lease) : after.Issued lease := by
  have before : coordinator.Issued lease := by
    rcases campaigned_append.mp campaigned with old | ⟨value, rfl⟩
    · exact faithful.issued key lease old
    · exact possible
  have later := (outcome.served possible).succeeds.issued
  exact ⟨before.1, Int.lt_of_lt_of_le before.2 later⟩

theorem entered_append (faithful : Faithful coordinator record)
    (outcome : Outcome coordinator request reply after)
    (possible : request.IsPossible coordinator) (candidate : Candidate) :
    candidate ∈ after.candidates ↔ after.isLive candidate.lease = true ∧
      LastValue (record ++ [(request, reply)]) candidate.key candidate.lease candidate.value := by
  rw [lastValue_append]
  cases outcome with
  | opened =>
      -- A lease that is new has not campaigned.
      have old (last : LastValue record candidate.key candidate.lease candidate.value) :
          candidate.lease ≠ coordinator.nextLease :=
        Int.ne_of_lt (faithful.issued _ _ last.campaigned).2
      have entered := faithful.entered candidate
      simp only [Coordinator.isLive_iff, List.mem_append, List.mem_singleton] at entered ⊢
      grind
  | refused => simpa [Coordinator.isLive] using faithful.entered candidate
  | failing =>
      simpa [Coordinator.isLive, Coordinator.failNext] using faithful.entered candidate
  | @rejected key lease value ended =>
      have entered := faithful.entered candidate
      have dead : coordinator.isLive lease = false := by
        apply Bool.eq_false_iff.mpr
        intro live
        simp [(faithful.tidy.sound.live lease live).2] at ended
      simp only [Request.campaign.injEq]
      grind
  | @entered key lease value phase unended =>
      have live := (faithful.tidy.hasEnded_iff possible).mp unended
      have entered := faithful.entered candidate
      have member : candidate ∈ Coordinator.enlisted { key, lease, value }
          coordinator.candidates ↔ _ := Coordinator.mem_enlisted_iff faithful.distinct
      change candidate ∈ Coordinator.enlisted { key, lease, value } coordinator.candidates ↔
        coordinator.isLive candidate.lease = true ∧ _
      rw [member, entered]
      simp only [Request.campaign.injEq, Candidate.place]
      grind [Candidate]
  | @expired lease =>
      rw [Coordinator.endSession_candidates, Coordinator.isLive_endSession, List.mem_filter,
        faithful.entered]
      simp [and_right_comm]
  | @closed lease =>
      rw [Coordinator.endSession_candidates, Coordinator.isLive_endSession, List.mem_filter,
        faithful.entered]
      simp [and_right_comm]

theorem ordered_append (faithful : Faithful coordinator record)
    (outcome : Outcome coordinator request reply after)
    (possible : request.IsPossible coordinator) :
    (after.candidates.map Candidate.place).Pairwise fun first second =>
      first.1 = second.1 → Precedes (record ++ [(request, reply)]) first.1 first.2 second.2 := by
  have kept := faithful.ordered.imp fun precedes same =>
    (precedes same).append [(request, reply)]
  cases outcome with
  | opened => exact kept
  | refused => exact kept
  | failing => exact kept
  | rejected => exact kept
  | @entered key lease value phase unended =>
      change ((Coordinator.enlisted { key, lease, value } coordinator.candidates).map
        Candidate.place).Pairwise _
      rw [Coordinator.map_place_enlisted]
      split
      · exact kept
      · -- Whoever comes last had not campaigned, for none has left without its session.
        rename_i absent
        refine List.pairwise_append.mpr ⟨kept, List.pairwise_singleton .., ?_⟩
        intro first member last lastMember same
        obtain rfl := List.mem_singleton.mp lastMember
        obtain ⟨candidate, queued, rfl⟩ := List.mem_map.mp member
        have campaigned := ((faithful.entered candidate).mp queued).2.campaigned
        refine ⟨record, _, rfl, campaigned, ?_⟩
        intro earlier
        rw [show candidate.place.1 = key from same] at earlier
        obtain ⟨value, last⟩ := earlier.lastValue
        have live := (faithful.tidy.hasEnded_iff possible).mp unended
        have entered : Candidate.mk key lease value ∈ coordinator.candidates :=
          (faithful.entered _).mpr ⟨live, last⟩
        exact absent (List.mem_map.mpr ⟨_, entered, rfl⟩)
  | expired =>
      rw [Coordinator.endSession_candidates]
      exact kept.sublist (List.filter_sublist.map _)
  | closed =>
      rw [Coordinator.endSession_candidates]
      exact kept.sublist (List.filter_sublist.map _)

theorem numbered_append (faithful : Faithful coordinator record)
    (outcome : Outcome coordinator request reply after) :
    after.nextLease = (leases (record ++ [(request, reply)])).length + 1 ∧
      leases (record ++ [(request, reply)]) =
        (List.range (leases (record ++ [(request, reply)])).length).map
          fun count : Nat => (count : Lease) + 1 := by
  have next := faithful.next
  have numbered := faithful.numbered
  rw [leases_append]
  cases outcome with
  | opened =>
      simp only [lease?, Option.toList_some, List.length_append, List.length_singleton]
      refine ⟨by simp [next], ?_⟩
      rw [List.range_succ, List.map_append, ← numbered, next]
      rfl
  | refused => simpa [lease?] using ⟨next, numbered⟩
  | failing => simpa [lease?] using ⟨next, numbered⟩
  | rejected => simpa [lease?] using ⟨next, numbered⟩
  | entered => simpa [lease?] using ⟨next, numbered⟩
  | @expired ending =>
      simpa [lease?, (coordinator.endSession_counters ending).1] using ⟨next, numbered⟩
  | @closed ending =>
      simpa [lease?, (coordinator.endSession_counters ending).1] using ⟨next, numbered⟩

theorem failing_append (faithful : Faithful coordinator record)
    (outcome : Outcome coordinator request reply after) (few : Nat) :
    few < after.failing ↔ FailsAfter (record ++ [(request, reply)]) few := by
  rw [failsAfter_append]
  simp only [← faithful.failing]
  cases outcome with
  | opened unfailing => simp [unfailing]
  | refused failing => simp [failing]
  | failing => simp [Coordinator.failNext]
  | rejected => simp
  | entered => simp [Coordinator.announce]
  | @expired ending => simp [(coordinator.endSession_counters ending).2]
  | @closed ending => simp [(coordinator.endSession_counters ending).2]

theorem replies (faithful : Faithful coordinator record)
    (outcome : Outcome coordinator request reply after)
    (possible : request.IsPossible coordinator) : Record.Replies record request reply := by
  cases outcome with
  | opened unfailing =>
      refine .inr ⟨?_, by rw [faithful.next]⟩
      rw [← faithful.failing, unfailing]
      exact Nat.lt_irrefl 0
  | refused failing =>
      refine .inl ⟨?_, rfl⟩
      rw [← faithful.failing, failing]
      exact Nat.succ_pos _
  | failing => trivial
  | @rejected key lease value ended =>
      have dead : ¬coordinator.isLive lease = true := by
        intro live
        simp [(faithful.tidy.sound.live lease live).2] at ended
      rw [faithful.live] at dead
      exact iff_of_true rfl dead
  | @entered key lease value phase unended unfailed =>
      have live := (faithful.tidy.hasEnded_iff possible).mp unended
      rw [faithful.live] at live
      exact iff_of_false unfailed (not_not_intro live)
  | expired => exact faithful.live _
  | closed => trivial

theorem serve (faithful : Faithful coordinator record) (possible : request.IsPossible coordinator) :
    Faithful (request.serve coordinator).2
      (record ++ [(request, (request.serve coordinator).1)]) := by
  have outcome := serve_outcome coordinator request
  refine {
    tidy := (outcome.served possible).tidy faithful.tidy
    live := faithful.live_append outcome
    issued := fun _ _ => faithful.issued_append outcome possible
    entered := faithful.entered_append outcome possible
    ordered := faithful.ordered_append outcome possible
    next := (faithful.numbered_append outcome).1
    numbered := (faithful.numbered_append outcome).2
    failing := faithful.failing_append outcome
    replied := ?_ }
  intro before request reply after split
  rcases append_singleton_eq_split.mp split with ⟨rfl, same, _⟩ | ⟨rest, _, earlier⟩
  · cases same
    exact faithful.replies outcome possible
  · exact faithful.replied before request reply rest earlier

theorem mem_queue (faithful : Faithful coordinator record) {key : String} (candidate : Candidate) :
    candidate ∈ coordinator.queue key ↔ candidate.key = key ∧ record.IsOpen candidate.lease ∧
      record.LastValue key candidate.lease candidate.value := by
  rw [Coordinator.queue, List.mem_filter, beq_iff_eq, faithful.entered, faithful.live]
  constructor
  · rintro ⟨entered, rfl⟩
    exact ⟨rfl, entered⟩
  · rintro ⟨rfl, entered⟩
    exact ⟨entered, rfl⟩

theorem queue_ordered (faithful : Faithful coordinator record) {key : String} :
    (coordinator.queue key).Pairwise fun first second =>
      record.Precedes key first.lease second.lease := by
  have ordered := List.pairwise_map.mp faithful.ordered
  refine (ordered.sublist List.filter_sublist).imp_of_mem ?_
  intro first second firstMember secondMember precedes
  have here := faithful.mem_queue first |>.mp firstMember
  have there := faithful.mem_queue second |>.mp secondMember
  exact here.1 ▸ precedes (here.1.trans there.1.symm)

end Faithful

/-! The service as it is asked one thing after another. -/

structure Chronicle where
  coordinator : Coordinator := {}
  record : Record := []

namespace Chronicle

variable {chronicle next reached : Chronicle} {request : Request} {requests : List Request}

def serve? (chronicle : Chronicle) (request : Request) : Option Chronicle :=
  if request.IsPossible chronicle.coordinator then
    let (reply, coordinator) := request.serve chronicle.coordinator
    some { coordinator, record := chronicle.record ++ [(request, reply)] }
  else none

def follow? (chronicle : Chronicle) (requests : List Request) : Option Chronicle :=
  requests.foldlM serve? chronicle

theorem serve?_eq_some : chronicle.serve? request = some next ↔
    request.IsPossible chronicle.coordinator ∧
      next = {
        coordinator := (request.serve chronicle.coordinator).2
        record := chronicle.record ++ [(request, (request.serve chronicle.coordinator).1)] } := by
  rw [serve?, Option.ite_none_right_eq_some, Option.some.injEq, eq_comm (b := next)]

theorem follow?_record (followed : chronicle.follow? requests = some reached) :
    reached.record.map Prod.fst = chronicle.record.map Prod.fst ++ requests := by
  induction requests generalizing chronicle with
  | nil =>
      obtain rfl : chronicle = reached := by simpa [follow?] using followed
      simp
  | cons request requests ih =>
      simp only [follow?, List.foldlM_cons, bind, Option.bind_eq_some_iff] at followed
      obtain ⟨next, served, rest⟩ := followed
      obtain ⟨_, rfl⟩ := serve?_eq_some.mp served
      rw [ih rest, List.map_append, List.append_assoc]
      rfl

theorem follow?_faithful (followed : ({} : Chronicle).follow? requests = some reached) :
    Faithful reached.coordinator reached.record := by
  have kept (chronicle next : Chronicle) (request : Request)
      (served : chronicle.serve? request = some next)
      (faithful : Faithful chronicle.coordinator chronicle.record) :
      Faithful next.coordinator next.record := by
    obtain ⟨possible, rfl⟩ := serve?_eq_some.mp served
    exact faithful.serve possible
  exact run_induction (fun request _ chronicle next => kept chronicle next request) followed
    Faithful.start

theorem serve?_others (served : chronicle.serve? request = some next) (key : String) :
    (next.coordinator.queue key).filter (!request.concerns ·) =
      (chronicle.coordinator.queue key).filter (!request.concerns ·) := by
  obtain ⟨_, rfl⟩ := serve?_eq_some.mp served
  rw [Coordinator.filter_queue, Coordinator.filter_queue]
  exact congrArg (List.filter _) (Request.serve_outcome chronicle.coordinator request).others

end Chronicle

theorem queues_in_order_of_campaigns {requests : List Request} {reached : Chronicle}
    (followed : ({} : Chronicle).follow? requests = some reached) :
    reached.record.map Prod.fst = requests ∧
      (∀ lease, reached.coordinator.isLive lease = true ↔ reached.record.IsOpen lease) ∧
      (∀ key,
        (∀ candidate, candidate ∈ reached.coordinator.queue key ↔
          candidate.key = key ∧ reached.record.IsOpen candidate.lease ∧
            reached.record.LastValue key candidate.lease candidate.value) ∧
        (reached.coordinator.queue key).Pairwise (fun first second =>
          reached.record.Precedes key first.lease second.lease) ∧
        ((reached.coordinator.queue key).map Candidate.lease).Nodup ∧
        reached.coordinator.leader? key =
          ((reached.coordinator.queue key).map Candidate.value).head? ∧
        reached.coordinator.leaderLease? key =
          ((reached.coordinator.queue key).map Candidate.lease).head?) ∧
      (∀ before request reply after, reached.record = before ++ (request, reply) :: after →
        Record.Replies before request reply) ∧
      reached.record.leases =
        (List.range reached.record.leases.length).map (fun count : Nat => (count : Lease) + 1) ∧
      ∀ request next, reached.serve? request = some next → ∀ key,
        (next.coordinator.queue key).filter (!request.concerns ·) =
          (reached.coordinator.queue key).filter (!request.concerns ·) := by
  have faithful := Chronicle.follow?_faithful followed
  have record := Chronicle.follow?_record followed
  refine ⟨record, faithful.live, fun key => ⟨?_, ?_, ?_, ?_, ?_⟩, faithful.replied,
    faithful.numbered, fun request next served => Chronicle.serve?_others served⟩
  · exact faithful.mem_queue
  · exact faithful.queue_ordered
  · rw [List.Nodup, List.pairwise_map]
    apply faithful.queue_ordered.imp
    rintro first second precedes same
    rw [same] at precedes
    exact precedes.irrefl
  · rw [List.head?_map]
    rfl
  · rw [List.head?_map]
    rfl

/-- A creation fails, two sessions campaign, and the first of them does so again. -/
def contention : List Request :=
  [.failNext 1, .create, .create, .create, .campaign "k" 2 "b", .campaign "k" 1 "a",
    .campaign "j" 1 "a", .campaign "k" 2 "c", .expire 7]

theorem contention_keeps_first_place :
    ∃ reached, ({} : Chronicle).follow? contention = some reached ∧
      reached.coordinator.queue "k" = [⟨"k", 2, "c"⟩, ⟨"k", 1, "a"⟩] ∧
      reached.record.Precedes "k" 2 1 := by
  obtain ⟨reached, followed, queue⟩ : ∃ reached,
      ({} : Chronicle).follow? contention = some reached ∧
        reached.coordinator.queue "k" = [⟨"k", 2, "c"⟩, ⟨"k", 1, "a"⟩] := ⟨_, rfl, rfl⟩
  have ordered := ((queues_in_order_of_campaigns followed).2.2.1 "k").2.1
  rw [queue] at ordered
  exact ⟨reached, followed, queue, List.rel_of_pairwise_cons ordered List.mem_cons_self⟩

end Rota.Election
