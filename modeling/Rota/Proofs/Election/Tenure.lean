import Rota.Election.Elector

/-!
What an elector holds in each phase: the lease of its session, the tenure of a session that it
is not giving up, and the seat that it has won. A signal takes these away but gives a lease only
when a session is opened, and a seat only when an election is won.
-/

namespace Rota.Election

namespace Phase

def lease? : Phase → Option Lease
  | campaigning lease => some lease
  | waiting lease => some lease
  | campaignPause lease _ => some lease
  | elected lease => some lease
  | leading lease _ => some lease
  | closing lease => some lease
  | _ => none

/-- The lease of a session that is not being closed. -/
def tenure? : Phase → Option Lease
  | campaigning lease => some lease
  | waiting lease => some lease
  | campaignPause lease _ => some lease
  | elected lease => some lease
  | leading lease _ => some lease
  | _ => none

/-- The lease with which an election has been won. -/
def seat? : Phase → Option Lease
  | elected lease => some lease
  | leading lease _ => some lease
  | _ => none

theorem lease?_of_tenure? {phase : Phase} {lease : Lease} (held : phase.tenure? = some lease) :
    phase.lease? = some lease := by
  cases phase <;> simp_all [tenure?, lease?]

end Phase

namespace Elector

/-- An elector calls itself the leader of the very term that it leads in. -/
def HasStanding (elector : Elector) : Prop :=
  ∀ term, elector.standing = .leader term ↔ ∃ lease, elector.phase = .leading lease term

def IsNew (elector : Elector) : Prop := elector.phase = .idle ∧ elector.standing = .follower

theorem IsNew.hasStanding {elector : Elector} (new : elector.IsNew) : elector.HasStanding := by
  intro term
  simp [new.1, new.2]

theorem HasStanding.leading {elector : Elector} (standing : elector.HasStanding)
    (leads : elector.isLeader = true) : ∃ lease term, elector.phase = .leading lease term := by
  simp only [isLeader] at leads
  split at leads
  · rename_i term leader
    obtain ⟨lease, leading⟩ := (standing term).mp leader
    exact ⟨lease, term, leading⟩
  · simp at leads

variable (elector : Elector) (now : Instant) (signal : Signal)

theorem hear_key : (elector.hear now signal).key = elector.key := by
  unfold hear
  split <;> rfl

theorem hear_hasStanding (standing : elector.HasStanding) :
    (elector.hear now signal).HasStanding := by
  intro term
  have before := standing term
  unfold hear
  split <;> simp_all [stop, stepDown]

theorem hear_lease? {lease : Lease}
    (held : (elector.hear now signal).phase.lease? = some lease) :
    elector.phase.lease? = some lease ∨
      elector.phase = .opening ∧ signal = .sessionOpened lease := by
  unfold hear at held
  split at held <;> simp_all [stop, stepDown, Phase.lease?]

theorem hear_tenure? {lease : Lease}
    (held : (elector.hear now signal).phase.tenure? = some lease) :
    elector.phase.tenure? = some lease ∨
      elector.phase = .opening ∧ signal = .sessionOpened lease := by
  unfold hear at held
  split at held <;> simp_all [stop, stepDown, Phase.tenure?]

theorem hear_seat? {lease : Lease}
    (held : (elector.hear now signal).phase.seat? = some lease) :
    elector.phase.seat? = some lease ∨ elector.phase = .waiting lease ∧ signal = .won := by
  unfold hear at held
  split at held <;> simp_all [stop, stepDown, Phase.seat?]

end Elector

end Rota.Election
