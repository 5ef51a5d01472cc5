import Rota.Proofs.Election.Sessions
import Rota.Proofs.Election.Settling
import Rota.Proofs.Election.Terms

/-!
Whatever happens to a cluster, each of its electors goes through a career: what holds of every
career holds of the electors of every cluster.
-/

namespace Rota.Election

namespace Cluster

variable {cluster : Cluster} {elector : Elector} {now : Instant} {move : Move}

/-- Once told to stop an elector asks for nothing new. -/
theorem choice_cancelled (chosen : cluster.choice now elector = some move)
    (cancelled : elector.cancelled = true) : move = .heed ∨ move = .seat ∨ move = .close := by
  cases phase : elector.phase <;> simp_all [choice]

theorem choice_isSome_of_not_yields (cluster : Cluster) (now : Instant)
    (hurries : elector.phase.yields = false) :
    (cluster.choice now elector).isSome = true := by
  cases phase : elector.phase <;> simp only [phase, Phase.yields, Bool.true_eq_false] at hurries
  · simp only [choice, phase]
    split
    · rfl
    · split <;> rfl
  · simp [choice, phase]

end Cluster

namespace Career

/-- A career that an elector of a cluster may have had. -/
structure Fits (career : Career) (cluster : Cluster) (replica : Nat) : Prop where
  stands : cluster.elector? replica = some career.elector
  ended : ∀ lease, cluster.coordinator.hasEnded lease = true → lease ∈ career.ended
  opened : ∀ lease, .opened lease ∈ career.feats → lease < cluster.coordinator.nextLease

variable {career middle last : Career} {cluster next acted : Cluster} {replica mover : Nat}
  {now : Instant} {move : Move} {signal : Signal} {events : List Event} {notices : List Notice}
  {lease : Lease}

theorem Fits.hears (fits : career.Fits cluster replica)
    (chosen : cluster.choice now career.elector = some move)
    (acts : Cluster.Acted cluster career.elector move acted signal) :
    career.hears signal = true := by
  have uncancelled (otherwise : move ≠ .heed ∧ move ≠ .seat ∧ move ≠ .close) :
      career.elector.cancelled = false := by
    apply Bool.eq_false_iff.mpr
    intro cancelled
    rcases Cluster.choice_cancelled chosen cancelled with same | same | same
    · exact otherwise.1 same
    · exact otherwise.2.1 same
    · exact otherwise.2.2 same
  cases acts with
  | opened _ created =>
      obtain ⟨rfl, _⟩ := Coordinator.createSession_ok created
      have unopened : .opened cluster.coordinator.nextLease ∉ career.feats := by
        intro old
        exact Int.lt_irrefl _ (fits.opened _ old)
      simp [Career.hears, uncancelled, unopened]
  | @lost lease held gone =>
      have ended := fits.ended _ gone
      have tenure : career.elector.phase.tenure? = some lease := by
        rcases held with phase | phase | ⟨term, phase⟩ <;> rw [phase] <;> rfl
      simp [Career.hears, uncancelled, tenure, ended]
  | heeded cancelled => exact cancelled
  | rested => rfl
  | seated => rfl
  | closed => rfl
  | unclosed => rfl
  | _ => simp [Career.hears, uncancelled]

theorem follow?_append {earlier later : List Incident}
    (first : career.follow? earlier = some middle) (second : middle.follow? later = some last) :
    career.follow? (earlier ++ later) = some last := by
  rw [follow?, List.foldlM_append]
  exact Option.bind_eq_some_iff.mpr ⟨middle, first, second⟩

theorem follow?_expire (career : Career) (leases : List Lease) :
    career.follow? (leases.map .expire) =
      some { career with ended := leases.reverse ++ career.ended } := by
  induction leases generalizing career with
  | nil => rfl
  | cons lease leases ih =>
      have rest := ih { career with ended := lease :: career.ended }
      simpa [follow?, happen?] using rest

/-- A career goes on within one turn of the elector. -/
def Continues (career next : Career) : Prop :=
  ∃ incidents : List Incident, incidents.all Incident.isWithin = true ∧
    career.follow? incidents = some next

theorem Continues.refl (career : Career) : career.Continues career := ⟨[], rfl, rfl⟩

theorem Continues.trans (first : career.Continues middle) (second : middle.Continues last) :
    career.Continues last := by
  obtain ⟨earlier, within, followed⟩ := first
  obtain ⟨later, withinToo, followedToo⟩ := second
  refine ⟨earlier ++ later, ?_, follow?_append followed followedToo⟩
  rw [List.all_append, within, withinToo]
  rfl

theorem Continues.hear (now : Instant) (hears : career.hears signal = true) :
    career.Continues (career.hear now signal) := by
  refine ⟨[.hear now signal], rfl, ?_⟩
  simp [follow?, happen?, hears]

theorem continues_expire (career : Career) (leases : List Lease) :
    career.Continues { career with ended := leases.reverse ++ career.ended } := by
  refine ⟨leases.map .expire, ?_, career.follow?_expire leases⟩
  simp [Incident.isWithin]

/-- Sessions that have ended elsewhere are lost in a career too. -/
theorem fits_of_stands (stands : cluster.elector? replica = some career.elector)
    (opened : ∀ lease, .opened lease ∈ career.feats → lease < cluster.coordinator.nextLease) :
    ∃ later, career.Continues later ∧ later.Fits cluster replica := by
  refine ⟨_, career.continues_expire cluster.coordinator.ended, stands, ?_, opened⟩
  intro lease ended
  have member : lease ∈ cluster.coordinator.ended := by
    simpa [Coordinator.hasEnded] using ended
  exact List.mem_append_left _ (List.mem_reverse.mpr member)

theorem Fits.perform? (fits : career.Fits cluster replica)
    (chosen : cluster.nextMove now = some (mover, move))
    (moved : cluster.perform? now mover move = some (next, events, notices)) :
    ∃ later, career.Continues later ∧ later.Fits next replica := by
  obtain ⟨elector, acted, signal, found, acts, result⟩ := Cluster.perform?_acted moved
  have electors : next.electors = cluster.electors.set mover (elector.hear now signal) := by
    rw [result]
  have effect : Cluster.Effect cluster.coordinator elector next.coordinator signal := by
    rw [result]
    exact acts.effect
  have issued (lease : Lease) (old : .opened lease ∈ career.feats) :
      lease < next.coordinator.nextLease :=
    Int.lt_of_lt_of_le (fits.opened lease old) effect.succeeds.issued
  by_cases same : replica = mover
  · subst same
    obtain ⟨_, stood, choice⟩ := Cluster.nextMove_eq_some chosen
    obtain rfl := Option.some.inj (stood.symm.trans fits.stands)
    obtain rfl := Option.some.inj (found.symm.trans fits.stands)
    have heard := Continues.hear now (fits.hears choice acts)
    have bound : replica < cluster.electors.length := (List.getElem?_eq_some_iff.mp found).1
    have stands : next.elector? replica = some (career.hear now signal).elector := by
      simp [Cluster.elector?, electors, bound, Career.hear]
    have fresh (lease : Lease) (member : .opened lease ∈ (career.hear now signal).feats) :
        lease < next.coordinator.nextLease := by
      rcases List.mem_append.mp member with old | new
      · exact issued lease old
      · obtain ⟨_, rfl⟩ := Elector.feat?_opened (Option.mem_toList.mp new)
        exact effect.opened_lease.2.1
    obtain ⟨later, continues, fitting⟩ := fits_of_stands stands fresh
    exact ⟨later, heard.trans continues, fitting⟩
  · have stands : next.elector? replica = some career.elector := by
      rw [Cluster.elector?, electors, List.getElem?_set_ne (Ne.symm same)]
      exact fits.stands
    exact fits_of_stands stands issued

theorem Fits.drain (fits : career.Fits cluster replica) (now : Instant) (fuel : Nat)
    (journal : Journal) :
    ∃ later, career.Continues later ∧
      later.Fits (Cluster.drain now fuel (cluster, journal)).1 replica := by
  induction fuel generalizing career cluster journal with
  | zero => exact ⟨career, .refl career, fits⟩
  | succ fuel ih =>
      simp only [Cluster.drain]
      split
      · exact ⟨career, .refl career, fits⟩
      · rename_i mover move chosen
        split
        · exact ⟨career, .refl career, fits⟩
        · rename_i next events notices moved
          obtain ⟨middle, first, fitting⟩ := fits.perform? chosen moved
          obtain ⟨later, second, fitting⟩ := ih fitting
            ((events.foldl (fun journal event => journal.record now event) journal).noteAll
              now notices)
          exact ⟨later, first.trans second, fitting⟩

/-- To settle a cluster is to give each elector its turn. -/
theorem Fits.settle (fits : career.Fits cluster replica) (regular : Regular cluster)
    (now : Instant) (journal : Journal) :
    ∃ incidents later, career.pass? (.poll incidents) = some later ∧
      later.Fits (cluster.settle now journal).1 replica := by
  obtain ⟨later, ⟨incidents, within, followed⟩, fitting⟩ :=
    fits.drain now cluster.potential journal
  obtain ⟨settled, rests⟩ := regular.settle now journal
  have bound := (List.getElem?_eq_some_iff.mp fitting.stands).1
  have waits := Cluster.nextMove_eq_none (settled.turns replica bound) rests fitting.stands
  have yields : later.elector.phase.yields = true := by
    by_contra hurries
    have moves := (cluster.settle now journal).1.choice_isSome_of_not_yields now
      (Bool.eq_false_iff.mpr hurries)
    simp [waits] at moves
  refine ⟨incidents, later, ?_, fitting⟩
  simp [pass?, within, followed, yields]

end Career

inductive Stir where
  | outside (happening : Happening)
  | settle (now : Instant) (journal : Journal)

def Happening.isOutside : Happening → Bool
  | .move _ _ _ => false
  | happening => happening.isWhole

namespace Cluster

def stir? (cluster : Cluster) : Stir → Option Cluster
  | .outside happening => if happening.isOutside then cluster.happen? happening else none
  | .settle now journal => some (cluster.settle now journal).1

def live? (cluster : Cluster) (stirs : List Stir) : Option Cluster := stirs.foldlM stir? cluster

end Cluster

theorem Elector.feat?_started (elector : Elector) : elector.feat? .started = none := by
  unfold feat?
  split <;> simp_all

theorem Regular.stir? {cluster next : Cluster} (regular : Regular cluster) {stir : Stir}
    (stirred : cluster.stir? stir = some next) : Regular next := by
  cases stir with
  | outside happening =>
      obtain ⟨outside, happened⟩ := Option.ite_none_right_eq_some.mp stirred
      have whole : happening.isWhole = true := by
        cases happening <;> simp_all [Happening.isOutside, Happening.isWhole]
      exact regular.happen? whole happened
  | settle now journal =>
      cases stirred
      exact (regular.settle now journal).1

namespace Career

variable {career last : Career} {cluster next : Cluster} {replica : Nat}

theorem Fits.outside (fits : career.Fits cluster replica) {happening : Happening}
    (outside : happening.isOutside = true) (happened : cluster.happen? happening = some next) :
    ∃ glimpses later, career.watch? glimpses = some later ∧ later.Fits next replica := by
  cases happening with
  | move => cases outside
  | start now place =>
      simp only [Cluster.happen?, Cluster.start, Option.some.injEq] at happened
      split at happened
      · subst happened
        exact ⟨[], career, rfl, fits⟩
      · subst happened
        by_cases same : replica = place
        · refine ⟨[.outside (.run now)], career.hear now .started, rfl, ?_, fits.ended, ?_⟩
          · rw [Cluster.elector?_modifyElector, if_pos same, fits.stands]
            rfl
          · intro lease member
            rw [Career.hear, career.elector.feat?_started, Option.toList_none, List.append_nil]
              at member
            exact fits.opened lease member
        · refine ⟨[], career, rfl, ?_, fits.ended, fits.opened⟩
          rw [Cluster.elector?_modifyElector, if_neg same, fits.stands]
  | cancel place =>
      cases happened
      by_cases same : replica = place
      · refine ⟨[.outside .cancel], _, rfl, ?_, fits.ended, fits.opened⟩
        rw [Cluster.cancel, Cluster.elector?_modifyElector, if_pos same, fits.stands]
        rfl
      · refine ⟨[], career, rfl, ?_, fits.ended, fits.opened⟩
        rw [Cluster.cancel, Cluster.elector?_modifyElector, if_neg same, fits.stands]
  | expire lease =>
      cases happened
      refine ⟨[.outside (.expire lease)], _, rfl, fits.stands, ?_, ?_⟩
      · intro other ended
        rcases (Coordinator.hasEnded_endSession _ lease other).mp ended with old | ⟨rfl, _⟩
        · exact List.mem_cons_of_mem _ (fits.ended other old)
        · exact List.mem_cons_self
      · intro other member
        have issued := fits.opened other member
        rwa [← Coordinator.nextLease_endSession _ lease] at issued
  | failSessions count =>
      cases happened
      exact ⟨[], career, rfl, fits.stands, fits.ended, fits.opened⟩
  | setFaults faults =>
      cases happened
      exact ⟨[], career, rfl, fits.stands, fits.ended, fits.opened⟩
  | _ => cases outside

theorem Fits.stir? (fits : career.Fits cluster replica) (regular : Regular cluster) {stir : Stir}
    (stirred : cluster.stir? stir = some next) :
    ∃ glimpses later, career.watch? glimpses = some later ∧ later.Fits next replica := by
  cases stir with
  | outside happening =>
      obtain ⟨outside, happened⟩ := Option.ite_none_right_eq_some.mp stirred
      exact fits.outside outside happened
  | settle now journal =>
      cases stirred
      obtain ⟨incidents, later, passed, fitting⟩ := fits.settle regular now journal
      refine ⟨[.poll incidents], later, ?_, fitting⟩
      simp [watch?, passed]

theorem start_fits {electors : List Elector} {elector : Elector}
    (found : electors[replica]? = some elector) :
    Fits { elector } (.ofElectors electors) replica := by
  refine ⟨found, ?_, ?_⟩
  · simp [Cluster.ofElectors, Coordinator.hasEnded]
  · simp

end Career

/-- Nothing adds an elector to a cluster. -/
theorem Cluster.follow?_absent {cluster next : Cluster} {history : List Happening}
    (followed : cluster.follow? history = some next) {replica : Nat}
    (absent : cluster.elector? replica = none) : next.elector? replica = none := by
  have without : ∀ happening ∈ history, ∀ reached later : Cluster,
      reached.happen? happening = some later → reached.elector? replica = none →
        later.elector? replica = none := by
    intro happening _ reached later happened absent
    obtain ⟨_, advance, _⟩ := happen?_advance happened
    rw [Option.eq_none_iff_forall_ne_some]
    intro moved found
    obtain ⟨before, stood, _⟩ := advance.origin found
    simp [absent] at stood
  exact follow?_induction without followed absent

theorem Cluster.stir?_absent {cluster next : Cluster} {stir : Stir}
    (stirred : cluster.stir? stir = some next) {replica : Nat}
    (absent : cluster.elector? replica = none) : next.elector? replica = none := by
  cases stir with
  | outside happening =>
      obtain ⟨_, happened⟩ := Option.ite_none_right_eq_some.mp stirred
      have followed : cluster.follow? [happening] = some next := by simp [follow?, happened]
      exact follow?_absent followed absent
  | settle now journal =>
      cases stirred
      obtain ⟨_, _, followed⟩ := cluster.settle_follow? now journal
      exact follow?_absent followed absent

/-- What can be seen of each elector of a cluster is what can be seen of a career. -/
structure Storied (electors : List Elector) (cluster : Cluster) : Prop where
  regular : Regular cluster
  careers : ∀ replica, cluster.elector? replica ≠ none → ∃ start ∈ electors, ∃ glimpses career,
    Career.watch? { elector := start } glimpses = some career ∧ career.Fits cluster replica

namespace Storied

variable {electors : List Elector} {cluster next : Cluster}

theorem start (new : ∀ elector ∈ electors, elector.IsNew) :
    Storied electors (.ofElectors electors) := by
  refine ⟨regular_ofElectors new, ?_⟩
  intro replica present
  obtain ⟨elector, found⟩ := Option.ne_none_iff_exists'.mp present
  exact ⟨elector, List.mem_of_getElem? found, [], _, rfl, Career.start_fits found⟩

theorem stir? (storied : Storied electors cluster) {stir : Stir}
    (stirred : cluster.stir? stir = some next) : Storied electors next := by
  refine ⟨storied.regular.stir? stirred, ?_⟩
  intro replica present
  obtain ⟨start, member, earlier, career, watched, fits⟩ :=
    storied.careers replica (mt (Cluster.stir?_absent stirred) present)
  obtain ⟨later, last, seen, fitting⟩ := fits.stir? storied.regular stirred
  refine ⟨start, member, earlier ++ later, last, ?_, fitting⟩
  rw [Career.watch?, List.foldlM_append]
  exact Option.bind_eq_some_iff.mpr ⟨career, watched, seen⟩

theorem live? (storied : Storied electors cluster) {stirs : List Stir}
    (lived : cluster.live? stirs = some next) : Storied electors next :=
  run_induction (fun _ _ _ _ stirred storied => storied.stir? stirred) lived storied

end Storied

/-- Whatever stirs a cluster of electors that have done nothing yet, what has become of each of
them is what can be seen of some career. -/
theorem electors_have_careers {electors : List Elector}
    (unborn : ∀ elector ∈ electors, ∃ candidate settings, elector = { candidate, settings })
    {stirs : List Stir} {cluster : Cluster}
    (lived : (Cluster.ofElectors electors).live? stirs = some cluster) :
    ∀ replica elector, cluster.elector? replica = some elector →
      ∃ candidate settings glimpses career,
        Career.watch? { elector := { candidate, settings } } glimpses = some career ∧
          career.elector = elector := by
  have new : ∀ elector ∈ electors, elector.IsNew := by
    intro elector member
    obtain ⟨candidate, settings, rfl⟩ := unborn elector member
    exact ⟨rfl, rfl⟩
  have storied := (Storied.start new).live? lived
  intro replica elector found
  obtain ⟨start, member, glimpses, career, watched, fits⟩ :=
    storied.careers replica (Option.ne_none_iff_exists'.mpr ⟨elector, found⟩)
  obtain ⟨candidate, settings, rfl⟩ := unborn start member
  refine ⟨candidate, settings, glimpses, career, watched, ?_⟩
  exact Option.some.inj (fits.stands.symm.trans found)

/-- In a cluster, too, an elector leads in the last of its terms until that has ended. -/
theorem leader_iff_term_unended {electors : List Elector}
    (unborn : ∀ elector ∈ electors, ∃ candidate settings, elector = { candidate, settings })
    {stirs : List Stir} {cluster : Cluster}
    (lived : (Cluster.ofElectors electors).live? stirs = some cluster) {replica : Nat}
    {elector : Elector} (found : cluster.elector? replica = some elector) (term : Term) :
    elector.standing = .leader term ↔ term < elector.terms ∧ term ∉ elector.endedTerms := by
  obtain ⟨candidate, settings, glimpses, career, watched, rfl⟩ :=
    electors_have_careers unborn lived replica elector found
  have termed : career.Termed := Career.watch?_induction
    (fun _ _ changes termed => termed.changes changes) watched
    (Career.start_termed candidate settings)
  rw [termed.leader_iff, termed.begun, List.mem_range]

end Rota.Election
