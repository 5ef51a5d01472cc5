import Rota.Election.Vigil
import Rota.Proofs.Election.Career

/-!
Terms of leadership. Main statement: an elector leads exactly while the last term that it began
has not ended, whoever was handed a term sees its end when the elector steps down, no term begins
once the elector has been told to stop, and one that has stopped stays so.
-/

namespace Rota.Election

/-- The terms of an elector are numbered, and it is in the one that has not ended. -/
structure Elector.Counts (elector : Elector) : Prop where
  past : ∀ term ∈ elector.endedTerms, term < elector.terms
  current : ∀ term, elector.phase.term? = some term ↔
    term < elector.terms ∧ term ∉ elector.endedTerms

namespace Reigns

variable {elector next : Elector} {feat : Option Feat}

theorem counts (reigns : Reigns elector feat next) (before : elector.Counts) : next.Counts := by
  have past := before.past
  have current := before.current
  cases reigns with
  | began free leads terms ended =>
      -- The new term is the first that has not begun, so it cannot have ended.
      have fresh : elector.terms ∉ elector.endedTerms := fun old =>
        Nat.lt_irrefl _ (past _ old)
      refine ⟨?_, ?_⟩
      · intro term old
        rw [ended] at old
        rw [terms]
        exact Nat.lt_succ_of_lt (past term old)
      · intro term
        have finished := current term
        rw [free] at finished
        rw [leads, terms, ended, Option.some.injEq]
        constructor
        · rintro rfl
          exact ⟨Nat.lt_succ_self _, fresh⟩
        · rintro ⟨begun, unended⟩
          rcases Nat.lt_succ_iff_lt_or_eq.mp begun with older | same
          · simpa using finished.mpr ⟨older, unended⟩
          · exact same.symm
  | @ended _ last _ led free terms ended _ =>
      have lastBegun := (current last).mp led
      refine ⟨?_, ?_⟩
      · intro term old
        rw [ended, List.mem_cons] at old
        rw [terms]
        rcases old with rfl | older
        · exact lastBegun.1
        · exact past term older
      · intro term
        rw [free, terms, ended, List.mem_cons, not_or]
        constructor
        · simp
        · rintro ⟨begun, other, unended⟩
          have leads := led.symm.trans ((current term).mpr ⟨begun, unended⟩)
          exact absurd (Option.some.inj leads).symm other
  | kept same terms ended _ =>
      refine ⟨?_, ?_⟩
      · rw [terms, ended]
        exact past
      · rw [same, terms, ended]
        exact current

theorem begun (reigns : Reigns elector feat next) :
    List.range elector.terms ++ (feat.bind Feat.term?).toList = List.range next.terms := by
  cases reigns with
  | began _ _ terms _ =>
      rw [terms, List.range_succ]
      rfl
  | ended _ _ terms _ quiet =>
      rw [terms, quiet, Option.toList_none, List.append_nil]
  | kept _ terms _ quiet =>
      rw [terms, quiet, Option.toList_none, List.append_nil]

theorem later (reigns : Reigns elector feat next) : elector.terms ≤ next.terms ∧
    ∀ term ∈ elector.endedTerms, term ∈ next.endedTerms := by
  cases reigns with
  | began _ _ terms ended =>
      rw [terms, ended]
      exact ⟨Nat.le_succ _, fun _ old => old⟩
  | ended _ _ terms ended _ =>
      rw [terms, ended]
      exact ⟨Nat.le_refl _, fun _ => List.mem_cons_of_mem _⟩
  | kept _ terms ended _ =>
      rw [terms, ended]
      exact ⟨Nat.le_refl _, fun _ old => old⟩

end Reigns

namespace Elector

variable {elector : Elector}

theorem HasStanding.leader_iff (standing : elector.HasStanding) {term : Term} :
    elector.standing = .leader term ↔ elector.phase.term? = some term := by
  rw [standing term, Phase.term?_eq_some]

theorem HasStanding.isLeader_iff (standing : elector.HasStanding) :
    elector.isLeader = true ↔ ∃ term, elector.phase.term? = some term := by
  simp only [← standing.leader_iff]
  cases published : elector.standing <;> simp [isLeader, published]

theorem hear_stopped (stopped : elector.phase = .stopped) (now : Instant) (signal : Signal) :
    elector.hear now signal = elector := by
  simp [hear, stopped]

theorem hear_cancelled (elector : Elector) (now : Instant) (signal : Signal) :
    (elector.hear now signal).cancelled = elector.cancelled := by
  unfold hear
  split <;> rfl

/-- Only an answer of the service to a campaign gives an elector a seat. -/
theorem hear_elected {signal : Signal} {lease : Lease} (now : Instant) (unwon : signal ≠ .won)
    (elected : (elector.hear now signal).phase = .elected lease) :
    elector.phase = .elected lease := by
  unfold hear at elected
  split at elected <;> simp_all [stop, stepDown]

theorem feat?_led {signal : Signal} (unelected : ∀ lease, elector.phase ≠ .elected lease) :
    (elector.feat? signal).bind Feat.term? = none := by
  unfold feat?
  split <;> simp_all [Feat.term?]

end Elector

namespace Career

def begun (career : Career) : List Term := career.feats.filterMap Feat.term?

structure Termed (career : Career) : Prop where
  standing : career.elector.HasStanding
  openly : career.elector.StopsOpenly
  counts : career.elector.Counts
  begun : career.begun = List.range career.elector.terms

variable {career next last : Career}

theorem begun_hear (now : Instant) (signal : Signal) : (career.hear now signal).begun =
    career.begun ++ ((career.elector.feat? signal).bind Feat.term?).toList := by
  rw [begun, hear, List.filterMap_append, begun]
  cases career.elector.feat? signal with
  | none => rfl
  | some feat => cases term : feat.term? <;> simp [term]

theorem Termed.changes (termed : career.Termed) (changes : career.Changes next) :
    next.Termed := by
  cases changes with
  | @heard now signal _ =>
      have reigns := career.elector.hear_reigns now signal
      refine ⟨?_, ?_, reigns.counts termed.counts, ?_⟩
      · exact career.elector.hear_hasStanding now signal termed.standing
      · exact career.elector.hear_stopsOpenly now signal termed.openly
      · rw [begun_hear, termed.begun]
        exact reigns.begun
  | cancelled =>
      exact ⟨termed.standing, termed.openly, ⟨termed.counts.past, termed.counts.current⟩,
        termed.begun⟩
  | expired => exact ⟨termed.standing, termed.openly, termed.counts, termed.begun⟩

theorem Termed.leader_iff (termed : career.Termed) (term : Term) :
    career.elector.standing = .leader term ↔
      term ∈ career.begun ∧ term ∉ career.elector.endedTerms := by
  rw [termed.standing.leader_iff, termed.counts.current, termed.begun, List.mem_range]

theorem Termed.isLeader_iff (termed : career.Termed) : career.elector.isLeader = true ↔
    ∃ term ∈ career.begun, term ∉ career.elector.endedTerms := by
  rw [termed.standing.isLeader_iff]
  simp only [← termed.standing.leader_iff, termed.leader_iff]

theorem start_termed (candidate : String) (settings : Settings) :
    Termed { elector := { candidate, settings } } := by
  refine ⟨?_, ?_, ⟨?_, ?_⟩, rfl⟩
  · exact Elector.IsNew.hasStanding ⟨rfl, rfl⟩
  · simp [Elector.StopsOpenly]
  · simp
  · simp [Phase.term?]

/-- What one moment leaves for all later ones. -/
structure Later (career next : Career) : Prop where
  terms : career.elector.terms ≤ next.elector.terms
  ended : ∀ term ∈ career.elector.endedTerms, term ∈ next.elector.endedTerms
  stopped : career.elector.phase = .stopped → next.elector.phase = .stopped

theorem Later.refl (career : Career) : career.Later career :=
  ⟨Nat.le_refl _, fun _ old => old, fun stopped => stopped⟩

theorem Later.changes (later : career.Later next) (changes : next.Changes last) :
    career.Later last := by
  cases changes with
  | @heard now signal _ =>
      obtain ⟨terms, ended⟩ := (next.elector.hear_reigns now signal).later
      refine ⟨Nat.le_trans later.terms terms, ?_, ?_⟩
      · exact fun term old => ended term (later.ended term old)
      · intro stopped
        have stays := later.stopped stopped
        rw [hear, next.elector.hear_stopped stays]
        exact stays
  | cancelled => exact ⟨later.terms, later.ended, later.stopped⟩
  | expired => exact ⟨later.terms, later.ended, later.stopped⟩

/-- An elector that was told to stop, and has won nothing that it has still to take up. -/
structure Barred (begun : List Term) (career : Career) : Prop where
  cancelled : career.elector.cancelled = true
  unelected : ∀ lease, career.elector.phase ≠ .elected lease
  begun : career.begun = begun

theorem Barred.changes {begun : List Term} (barred : career.Barred begun)
    (changes : career.Changes next) : next.Barred begun := by
  cases changes with
  | @heard now signal hears =>
      have unwon : signal ≠ .won := by
        rintro rfl
        simp [Career.hears, barred.cancelled] at hears
      refine ⟨?_, ?_, ?_⟩
      · exact (career.elector.hear_cancelled now signal).trans barred.cancelled
      · intro lease elected
        exact barred.unelected lease (Elector.hear_elected now unwon elected)
      · rw [begun_hear, Elector.feat?_led barred.unelected, Option.toList_none, List.append_nil]
        exact barred.begun
  | cancelled => exact ⟨rfl, barred.unelected, barred.begun⟩
  | expired => exact ⟨barred.cancelled, barred.unelected, barred.begun⟩

end Career

namespace Vigil

variable {elector : Elector} {term : Term}

theorem look_watching (handed : awaitingTerm.look elector = watching term) :
    elector.standing = .leader term := by
  simp only [look] at handed
  split at handed <;> simp_all

theorem look_ended (handed : awaitingTerm.look elector = termEnded) :
    elector.hasStopped = true := by
  simp only [look] at handed
  split at handed <;> simp_all [Elector.hasStopped]

end Vigil

theorem Cluster.start_stopped {cluster : Cluster} {replica : Nat} {elector : Elector}
    (found : cluster.elector? replica = some elector) (stopped : elector.phase = .stopped)
    (now : Instant) : cluster.start now replica = (false, cluster) := by
  have unmoved : cluster.electors.modify replica (·.hear now .started) = cluster.electors := by
    apply List.ext_getElem?
    intro place
    rw [List.getElem?_modify]
    by_cases same : replica = place
    · subst same
      have stood : cluster.electors[replica]? = some elector := found
      simp [stood, elector.hear_stopped stopped]
    · simp [same]
  simp only [start, found, Elector.hasStarted, stopped, modifyElector, unmoved]
  rfl

namespace Career

variable {candidate : String} {settings : Settings} {earlier later : List Glimpse}
  {middle last : Career}

theorem terms_well_formed
    (reached : Career.watch? { elector := { candidate, settings } } earlier = some middle)
    (watched : middle.watch? later = some last) :
    last.elector.HasStanding ∧
      (last.elector.isLeader = true ↔ ∃ term ∈ last.begun, term ∉ last.elector.endedTerms) ∧
      (∀ term, last.elector.standing = .leader term ↔
        term ∈ last.begun ∧ term ∉ last.elector.endedTerms) ∧
      last.begun.Nodup ∧
      (∀ term, Vigil.awaitingTerm.look middle.elector = .watching term →
        middle.elector.standing = .leader term ∧ term ∉ middle.elector.endedTerms ∧
          (Vigil.watching term).look last.elector =
            if last.elector.standing = .leader term then .watching term else .termEnded) ∧
      (Vigil.awaitingTerm.look middle.elector = .termEnded →
        middle.elector.hasStopped = true) ∧
      (middle.elector.cancelled = true → last.begun = middle.begun) ∧
      (middle.elector.hasStopped = true →
        last.elector.hasStopped = true ∧ last.elector.isLeader = false ∧
          (∀ term ∈ last.begun, term ∈ last.elector.endedTerms) ∧
          Vigil.awaitingTerm.look last.elector = .termEnded ∧
          ∀ (cluster : Cluster) replica now, cluster.elector? replica = some last.elector →
            cluster.start now replica = (false, cluster)) := by
  have termed : middle.Termed := watch?_induction (fun _ _ changes termed => termed.changes changes)
    reached (start_termed candidate settings)
  have lastTermed : last.Termed :=
    watch?_induction (fun _ _ changes termed => termed.changes changes) watched termed
  have since : middle.Later last :=
    watch?_induction (fun _ _ changes later => later.changes changes) watched (.refl middle)
  refine ⟨lastTermed.standing, lastTermed.isLeader_iff, lastTermed.leader_iff, ?_, ?_, ?_, ?_, ?_⟩
  · rw [lastTermed.begun]
    exact List.nodup_range
  · intro term handed
    have leads := Vigil.look_watching handed
    have current := (termed.leader_iff term).mp leads
    refine ⟨leads, current.2, ?_⟩
    have begun : term ∈ last.begun := by
      rw [lastTermed.begun, List.mem_range]
      rw [termed.begun, List.mem_range] at current
      exact Nat.lt_of_lt_of_le current.1 since.terms
    by_cases ended : term ∈ last.elector.endedTerms
    · have finished : last.elector.standing ≠ .leader term := by
        rw [ne_eq, lastTermed.leader_iff term]
        exact fun current => current.2 ended
      simp [Vigil.look, ended, finished]
    · have leads := (lastTermed.leader_iff term).mpr ⟨begun, ended⟩
      simp [Vigil.look, ended, leads]
  · exact Vigil.look_ended
  · intro cancelled
    have yields := watch?_yields reached rfl
    have barred : middle.Barred middle.begun := by
      refine ⟨cancelled, ?_, rfl⟩
      intro lease elected
      simp [elected, Phase.yields] at yields
    exact (watch?_induction (fun _ _ changes barred => barred.changes changes) watched barred).begun
  · intro stopped
    have phase := since.stopped (termed.openly.mp (by simpa [Elector.hasStopped] using stopped))
    have standing := lastTermed.openly.mpr phase
    refine ⟨by simp [Elector.hasStopped, standing], by simp [Elector.isLeader, standing],
      ?_, ?_, ?_⟩
    · intro term begun
      by_contra unended
      have leads := (lastTermed.leader_iff term).mpr ⟨begun, unended⟩
      simp [standing] at leads
    · simp [Vigil.look, standing]
    · intro cluster replica now found
      exact Cluster.start_stopped found phase now

end Career

def accession : List Glimpse :=
  [.outside (.run 0), .poll [.hear 0 (.sessionOpened 7), .hear 0 .entered],
    .poll [.hear 1 .won, .hear 1 .seated]]

/-- The session is lost, and the next term ends because the elector is told to stop. -/
def abdication : List Glimpse :=
  [.outside (.expire 7), .poll [.hear 2 .sessionLost, .hear 2 (.sessionOpened 8), .hear 2 .entered],
    .poll [.hear 3 .won, .hear 3 .seated], .outside .cancel, .poll [.hear 4 .cancelSeen],
    .poll [.hear 5 (.sessionClosed none)]]

theorem abdication_ends_terms : ∃ middle last : Career,
    Career.watch? { elector := { candidate := "a" } } accession = some middle ∧
      middle.watch? abdication = some last ∧ Vigil.awaitingTerm.look middle.elector = .watching 0 ∧
        (Vigil.watching 0).look last.elector = .termEnded ∧ last.begun.Nodup := by
  obtain ⟨middle, last, reached, watched, handed, finished⟩ : ∃ middle last : Career,
      Career.watch? { elector := { candidate := "a" } } accession = some middle ∧
        middle.watch? abdication = some last ∧
          Vigil.awaitingTerm.look middle.elector = .watching 0 ∧
            last.elector.standing ≠ .leader 0 := ⟨_, _, rfl, rfl, rfl, Standing.noConfusion⟩
  have formed := Career.terms_well_formed reached watched
  have seen := (formed.2.2.2.2.1 0 handed).2.2
  rw [if_neg finished] at seen
  exact ⟨middle, last, reached, watched, handed, seen, formed.2.2.2.1⟩

end Rota.Election
