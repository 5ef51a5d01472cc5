import Mathlib.Data.List.Induction
import Rota.Proofs.Election.Candidacy
import Rota.Proofs.Run

/-!
What is asked of the coordination service and what it replies, one request after another, and
what can be read off that record: which sessions are open, who has campaigned before whom and
with which value, and which creations are to fail.
-/

namespace Rota.Election

inductive Request where
  | create
  | failNext (count : Nat)
  | campaign (key : String) (lease : Lease) (value : String)
  | expire (lease : Lease)
  | close (lease : Lease)
deriving DecidableEq, Repr

inductive Reply where
  | created (answer : Except CoordinationError Lease)
  /-- Where a campaign call stands once it waits or is over. -/
  | campaigned (phase : CallPhase)
  | expired (live : Bool)
  | done

namespace Request

/-- Only a session that was opened can campaign or be closed; any lease can be said to expire. -/
def IsPossible (coordinator : Coordinator) : Request → Prop
  | campaign _ lease _ => coordinator.Issued lease
  | close lease => coordinator.Issued lease
  | _ => True

instance (coordinator : Coordinator) : DecidablePred (IsPossible coordinator)
  | create => inferInstanceAs (Decidable True)
  | failNext _ => inferInstanceAs (Decidable True)
  | campaign _ lease _ => inferInstanceAs (Decidable (coordinator.Issued lease))
  | expire _ => inferInstanceAs (Decidable True)
  | close lease => inferInstanceAs (Decidable (coordinator.Issued lease))

def serve (coordinator : Coordinator) : Request → Reply × Coordinator
  | create =>
    let (answer, coordinator) := coordinator.createSession
    (.created answer, coordinator)
  | failNext count => (.done, coordinator.failNext count)
  | campaign key lease value =>
    let (coordinator, call) := Call.run coordinator { key, lease, value } 5
    (.campaigned call.phase, coordinator)
  | expire lease =>
    let (live, coordinator) := coordinator.endSession lease
    (.expired live, coordinator)
  | close lease => (.done, (coordinator.endSession lease).2)

def concerns (candidate : Candidate) : Request → Bool
  | campaign key lease _ => candidate.key == key && candidate.lease == lease
  | expire lease => candidate.lease == lease
  | close lease => candidate.lease == lease
  | _ => false

end Request

abbrev Record := List (Request × Reply)

namespace Record

variable (record : Record)

/-- A session was opened under the lease and has not been ended since. -/
def IsOpen (lease : Lease) : Prop :=
  Since (· = (.create, .created (.ok lease)))
    (fun entry => entry.1 ≠ .expire lease ∧ entry.1 ≠ .close lease) record

def Campaigned (key : String) (lease : Lease) : Prop :=
  ∃ entry ∈ record, ∃ value, entry.1 = .campaign key lease value

/-- The value of the last campaign of a session in an election. -/
def LastValue (key : String) (lease : Lease) (value : String) : Prop :=
  Since (·.1 = .campaign key lease value)
    (fun entry => ∀ newer, entry.1 ≠ .campaign key lease newer) record

/-- One session campaigned before the other ever did. -/
def Precedes (key : String) (lease other : Lease) : Prop :=
  ∃ before after, record = before ++ after ∧ Campaigned before key lease ∧
    ¬Campaigned before key other

def creations : Nat := record.countP (·.1 = .create)

/-- The creation after the next few is still one of those that were last made to fail. -/
def FailsAfter (few : Nat) : Prop :=
  ∃ before count reply after, record = before ++ (.failNext count, reply) :: after ∧
    (∀ entry ∈ after, ∀ again, entry.1 ≠ .failNext again) ∧ creations after + few < count

def lease? : Request × Reply → Option Lease
  | (.create, .created (.ok lease)) => some lease
  | _ => none

def leases : List Lease := record.filterMap lease?

/-- What is replied to a request after all that is on record. -/
def Replies : Request → Reply → Prop
  | .create, .created answer =>
    FailsAfter record 0 ∧ answer = .error Coordinator.injectedFailure ∨
      ¬FailsAfter record 0 ∧ answer = .ok ((leases record).length + 1)
  | .campaign _ lease _, .campaigned phase =>
    phase = .failed .sessionClosed ↔ ¬IsOpen record lease
  | .expire lease, .expired live => live = true ↔ IsOpen record lease
  | .failNext _, .done => True
  | .close _, .done => True
  | _, _ => False

variable {record} {request : Request} {reply : Reply} {key : String} {lease other : Lease}
  {value : String} {few : Nat}

theorem isOpen_append : IsOpen (record ++ [(request, reply)]) lease ↔
    (request = .create ∧ reply = .created (.ok lease)) ∨
      IsOpen record lease ∧ request ≠ .expire lease ∧ request ≠ .close lease := by
  rw [IsOpen, since_append, Prod.mk.injEq]
  rfl

theorem campaigned_append : Campaigned (record ++ [(request, reply)]) key lease ↔
    Campaigned record key lease ∨ ∃ value, request = .campaign key lease value := by
  simp only [Campaigned, List.mem_append, List.mem_singleton, or_and_right, exists_or,
    exists_eq_left]

theorem lastValue_append : LastValue (record ++ [(request, reply)]) key lease value ↔
    request = .campaign key lease value ∨
      LastValue record key lease value ∧ ∀ newer, request ≠ .campaign key lease newer :=
  since_append

theorem LastValue.campaigned (last : LastValue record key lease value) :
    Campaigned record key lease := by
  obtain ⟨before, entry, after, rfl, same, _⟩ := last
  exact ⟨entry, List.mem_append_right _ List.mem_cons_self, value, same⟩

theorem Campaigned.lastValue (campaigned : Campaigned record key lease) :
    ∃ value, LastValue record key lease value := by
  induction record using List.reverseRecOn with
  | nil => simp [Campaigned] at campaigned
  | append_singleton record entry ih =>
      rcases campaigned_append.mp campaigned with old | ⟨value, same⟩
      · by_cases again : ∃ newer, entry.1 = .campaign key lease newer
        · obtain ⟨newer, same⟩ := again
          exact ⟨newer, lastValue_append.mpr (.inl same)⟩
        · obtain ⟨value, last⟩ := ih old
          exact ⟨value, lastValue_append.mpr (.inr ⟨last, not_exists.mp again⟩)⟩
      · exact ⟨value, lastValue_append.mpr (.inl same)⟩

theorem Precedes.append (precedes : Precedes record key lease other) (later : Record) :
    Precedes (record ++ later) key lease other := by
  obtain ⟨before, after, rfl, first, second⟩ := precedes
  exact ⟨before, after ++ later, List.append_assoc .., first, second⟩

theorem Precedes.irrefl : ¬Precedes record key lease lease := by
  rintro ⟨before, after, _, campaigned, never⟩
  exact never campaigned

theorem creations_append : creations (record ++ [(request, reply)]) =
    creations record + if request = .create then 1 else 0 := by
  simp [creations, List.countP_append, List.countP_singleton]

theorem failsAfter_append : FailsAfter (record ++ [(request, reply)]) few ↔
    (∃ count, request = .failNext count ∧ few < count) ∨
      (∀ again, request ≠ .failNext again) ∧
        FailsAfter record (few + if request = .create then 1 else 0) := by
  constructor
  · rintro ⟨before, count, answer, after, split, silent, left⟩
    rcases append_singleton_eq_split.mp split with ⟨_, same, rfl⟩ | ⟨rest, rfl, rfl⟩
    · refine .inl ⟨count, congrArg Prod.fst same, ?_⟩
      simpa [creations] using left
    · have last := silent (request, reply) (List.mem_append_right _ List.mem_cons_self)
      refine .inr ⟨last, before, count, answer, rest, rfl, ?_, ?_⟩
      · exact fun entry member => silent entry (List.mem_append_left _ member)
      · rw [creations_append] at left
        omega
  · rintro (⟨count, rfl, left⟩ | ⟨last, before, count, answer, rest, rfl, silent, left⟩)
    · exact ⟨record, count, reply, [], rfl, by simp, by simpa [creations] using left⟩
    · refine ⟨before, count, answer, rest ++ [(request, reply)], by simp, ?_, ?_⟩
      · intro entry member
        rcases List.mem_append.mp member with old | new
        · exact silent entry old
        · rw [List.mem_singleton.mp new]
          exact last
      · rw [creations_append]
        omega

theorem leases_append :
    leases (record ++ [(request, reply)]) = leases record ++ (lease? (request, reply)).toList := by
  rw [leases, List.filterMap_append]
  rfl

end Record

end Rota.Election
