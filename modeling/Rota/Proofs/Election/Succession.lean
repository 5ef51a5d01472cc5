import Rota.Election.Coordinator

/-!
What the operations of the coordination service keep: no operation takes the front of a queue
from a session that stays live, and no session comes back to life.
-/

namespace Rota.Election.Coordinator

theorem isLive_iff (coordinator : Coordinator) (lease : Lease) :
    coordinator.isLive lease = true ↔ lease ∈ coordinator.live := by
  simp [isLive]

theorem isFront_iff (coordinator : Coordinator) (key : String) (lease : Lease) :
    coordinator.isFront key lease = true ↔ coordinator.leaderLease? key = some lease := by
  simp [isFront]

theorem leaderLease?_eq_find? (coordinator : Coordinator) (key : String) :
    coordinator.leaderLease? key =
      (coordinator.candidates.find? (·.key == key)).map Candidate.lease := by
  rw [leaderLease?, front?, queue, List.head?_filter]

/-- A later service that has left every front of an earlier one in place. -/
structure Succeeds (later earlier : Coordinator) : Prop where
  issued : earlier.nextLease ≤ later.nextLease
  live : ∀ lease, lease < earlier.nextLease → later.isLive lease = true →
    earlier.isLive lease = true
  front : ∀ key lease, lease < earlier.nextLease → later.isLive lease = true →
    earlier.isFront key lease = true → later.isFront key lease = true

theorem Succeeds.refl (coordinator : Coordinator) : coordinator.Succeeds coordinator :=
  ⟨Int.le_refl _, fun _ _ live => live, fun _ _ _ _ front => front⟩

theorem Succeeds.trans {last middle first : Coordinator} (later : last.Succeeds middle)
    (earlier : middle.Succeeds first) : last.Succeeds first := by
  have middleLive (lease : Lease) (old : lease < first.nextLease)
      (live : last.isLive lease = true) : middle.isLive lease = true :=
    later.live lease (Int.lt_of_lt_of_le old earlier.issued) live
  refine ⟨Int.le_trans earlier.issued later.issued, ?_, ?_⟩
  · intro lease old live
    exact earlier.live lease old (middleLive lease old live)
  · intro key lease old live front
    apply later.front key lease (Int.lt_of_lt_of_le old earlier.issued) live
    exact earlier.front key lease old (middleLive lease old live) front

theorem Succeeds.of_eq {later earlier : Coordinator} (issued : later.nextLease = earlier.nextLease)
    (live : later.live = earlier.live) (candidates : later.candidates = earlier.candidates) :
    later.Succeeds earlier := by
  refine ⟨Int.le_of_eq issued.symm, ?_, ?_⟩
  · intro lease _ alive
    simpa only [isLive, live] using alive
  · intro key lease _ _ front
    rw [isFront_iff, leaderLease?_eq_find?] at front ⊢
    rw [candidates, front]

theorem announce_succeeds (coordinator : Coordinator) :
    coordinator.announce.Succeeds coordinator :=
  .of_eq rfl rfl rfl

theorem signalEnd_succeeds (coordinator : Coordinator) (lease : Lease) :
    (coordinator.signalEnd lease).Succeeds coordinator :=
  .of_eq rfl rfl rfl

theorem failNext_succeeds (coordinator : Coordinator) (count : Nat) :
    (coordinator.failNext count).Succeeds coordinator :=
  .of_eq rfl rfl rfl

/-! Opening a session. -/

theorem createSession_ok {coordinator next : Coordinator} {lease : Lease}
    (created : coordinator.createSession = (.ok lease, next)) :
    lease = coordinator.nextLease ∧
      next = { coordinator with
        nextLease := coordinator.nextLease + 1
        live := coordinator.live ++ [coordinator.nextLease] } := by
  simp only [createSession] at created
  split at created
  · simp at created
  · simp only [Prod.mk.injEq, Except.ok.injEq] at created
    exact ⟨created.1.symm, created.2.symm⟩

theorem createSession_succeeds (coordinator : Coordinator) :
    coordinator.createSession.2.Succeeds coordinator := by
  simp only [createSession]
  split
  · exact .of_eq rfl rfl rfl
  · refine ⟨Int.le_of_lt (Int.lt_succ _), ?_, ?_⟩
    · intro lease old live
      have different : lease ≠ coordinator.nextLease := Int.ne_of_lt old
      simpa [isLive, different] using live
    · intro key lease _ _ front
      simpa [isFront_iff, leaderLease?_eq_find?] using front

theorem isLive_createSession {coordinator : Coordinator} {lease : Lease}
    (live : coordinator.isLive lease = true) :
    coordinator.createSession.2.isLive lease = true := by
  simp only [createSession]
  split
  · exact live
  · simp only [isLive_iff, List.mem_append] at live ⊢
    exact .inl live

/-! Entering an election. -/

theorem enlisted_find? (candidate : Candidate) (key : String) :
    ∀ candidates first, candidates.find? (·.key == key) = some first →
      ((enlisted candidate candidates).find? (·.key == key)).map Candidate.lease =
        some first.lease := by
  intro candidates first found
  induction candidates with
  | nil => simp at found
  | cons other others ih =>
      simp only [enlisted]
      split
      · rename_i same
        simp only [Bool.and_eq_true, beq_iff_eq] at same
        by_cases matching : other.key = key
        · have first_eq : other = first := by simpa [matching] using found
          subst first_eq
          have taken : candidate.key = key := same.1 ▸ matching
          simp [taken, same.2]
        · have later : others.find? (·.key == key) = some first := by
            simpa [matching] using found
          simp [← same.1, matching, later]
      · by_cases matching : other.key = key
        · have first_eq : other = first := by simpa [matching] using found
          subst first_eq
          simp [matching]
        · have later : others.find? (·.key == key) = some first := by
            simpa [matching] using found
          simpa [matching] using ih later

theorem enlist_ok {coordinator next : Coordinator} {key : String} {lease : Lease}
    {value : String} (entered : coordinator.enlist key lease value = .ok next) :
    next = { coordinator with
      candidates := enlisted { key, lease, value } coordinator.candidates } := by
  simp only [enlist] at entered
  split at entered
  · simp at entered
  · simpa using entered.symm

theorem enlist_succeeds {coordinator next : Coordinator} {key : String} {lease : Lease}
    {value : String} (entered : coordinator.enlist key lease value = .ok next) :
    next.Succeeds coordinator := by
  rw [enlist_ok entered]
  refine ⟨Int.le_refl _, fun _ _ live => live, ?_⟩
  intro otherKey otherLease _ _ front
  rw [isFront_iff, leaderLease?_eq_find?, Option.map_eq_some_iff] at front
  obtain ⟨first, found, sameLease⟩ := front
  rw [isFront_iff, leaderLease?_eq_find?, ← sameLease]
  exact enlisted_find? _ otherKey coordinator.candidates first found

/-! Ending a session. -/

theorem isLive_withdraw (coordinator : Coordinator) (ending lease : Lease) :
    (coordinator.withdraw ending).isLive lease = true ↔
      coordinator.isLive lease = true ∧ lease ≠ ending := by
  simp [isLive, withdraw]

theorem withdraw_find? (ending : Lease) (key : String) :
    ∀ (candidates : List Candidate) first, candidates.find? (·.key == key) = some first →
      first.lease ≠ ending →
        (candidates.filter (·.lease != ending)).find? (·.key == key) = some first := by
  intro candidates first found different
  induction candidates with
  | nil => simp at found
  | cons other others ih =>
      by_cases matching : other.key = key
      · have first_eq : other = first := by simpa [matching] using found
        subst first_eq
        simp [different, matching]
      · have later : others.find? (·.key == key) = some first := by
          simpa [matching] using found
        by_cases gone : other.lease = ending
        · simpa [gone] using ih later
        · simpa [gone, matching] using ih later

theorem withdraw_succeeds (coordinator : Coordinator) (ending : Lease) :
    (coordinator.withdraw ending).Succeeds coordinator := by
  refine ⟨Int.le_refl _, ?_, ?_⟩
  · intro lease _ live
    exact ((isLive_withdraw coordinator ending lease).mp live).1
  · intro key lease _ live front
    have different := ((isLive_withdraw coordinator ending lease).mp live).2
    rw [isFront_iff, leaderLease?_eq_find?, Option.map_eq_some_iff] at front
    obtain ⟨first, found, sameLease⟩ := front
    subst sameLease
    rw [isFront_iff, leaderLease?_eq_find?]
    exact congrArg (Option.map Candidate.lease)
      (withdraw_find? ending key coordinator.candidates first found different)

theorem endSession_succeeds (coordinator : Coordinator) (lease : Lease) :
    (coordinator.endSession lease).2.Succeeds coordinator := by
  simp only [endSession]
  split
  · exact (announce_succeeds _).trans
      ((signalEnd_succeeds _ lease).trans (withdraw_succeeds coordinator lease))
  · exact withdraw_succeeds coordinator lease

theorem isLive_endSession (coordinator : Coordinator) (ending lease : Lease) :
    (coordinator.endSession ending).2.isLive lease = true ↔
      coordinator.isLive lease = true ∧ lease ≠ ending := by
  rw [← isLive_withdraw]
  simp only [endSession]
  split <;> rfl

end Rota.Election.Coordinator
