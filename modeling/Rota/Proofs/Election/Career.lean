import Rota.Proofs.Election.Orderly

/-!
The career of one elector, with a service of which nothing is known: it may answer anything at
any time, and any session may be lost. What an elector does about its sessions and its terms is
read off the signals that it hears.
-/

namespace Rota.Election

inductive Feat where
  | opened (lease : Lease)
  | campaigned (lease : Lease)
  | lost (lease : Lease)
  /-- The elector has called for its session to be closed, and waits for the answer. -/
  | closing (lease : Lease)
  | closed (lease : Lease)
  | led (term : Term)
deriving DecidableEq, Repr

def Feat.term? : Feat → Option Term
  | led term => some term
  | _ => none

inductive Grip where
  | free
  | held (lease : Lease)
  | closing (lease : Lease)
deriving DecidableEq, Repr

namespace Phase

def grip : Phase → Grip
  | campaigning lease => .held lease
  | waiting lease => .held lease
  | campaignPause lease _ => .held lease
  | elected lease => .held lease
  | leading lease _ => .held lease
  | closing lease => .closing lease
  | _ => .free

def term? : Phase → Option Term
  | leading _ term => some term
  | _ => none

/-- The phases in which an elector waits for something, and others get their turn. -/
def yields : Phase → Bool
  | campaigning _ => false
  | elected _ => false
  | _ => true

theorem term?_eq_some {phase : Phase} {term : Term} :
    phase.term? = some term ↔ ∃ lease, phase = .leading lease term := by
  cases phase <;> simp [term?]

end Phase

inductive Handles : Grip → Option Feat → Grip → Prop
  | opened {lease} : Handles .free (some (.opened lease)) (.held lease)
  | campaigned {lease} : Handles (.held lease) (some (.campaigned lease)) (.held lease)
  | led {lease term} : Handles (.held lease) (some (.led term)) (.held lease)
  | lost {lease} : Handles (.held lease) (some (.lost lease)) .free
  | closing {lease} : Handles (.held lease) (some (.closing lease)) (.closing lease)
  | closed {lease} : Handles (.closing lease) (some (.closed lease)) .free
  | kept {grip} : Handles grip none grip

inductive Reigns (elector : Elector) : Option Feat → Elector → Prop
  | began {next} : elector.phase.term? = none → next.phase.term? = some elector.terms →
      next.terms = elector.terms + 1 → next.endedTerms = elector.endedTerms →
      Reigns elector (some (.led elector.terms)) next
  | ended {feat term next} : elector.phase.term? = some term → next.phase.term? = none →
      next.terms = elector.terms → next.endedTerms = term :: elector.endedTerms →
      feat.bind Feat.term? = none → Reigns elector feat next
  | kept {feat next} : next.phase.term? = elector.phase.term? → next.terms = elector.terms →
      next.endedTerms = elector.endedTerms → feat.bind Feat.term? = none →
      Reigns elector feat next

namespace Elector

def feat? (elector : Elector) (signal : Signal) : Option Feat :=
  match elector.phase, signal with
  | .opening, .sessionOpened lease => some (.opened lease)
  | .campaigning lease, .entered => some (.campaigned lease)
  | .campaigning lease, .campaignRefused _ => some (.campaigned lease)
  | .campaigning lease, .sessionLost => some (.lost lease)
  | .waiting lease, .sessionLost => some (.lost lease)
  | .leading lease _, .sessionLost => some (.lost lease)
  | .campaigning lease, .cancelSeen => some (.closing lease)
  | .waiting lease, .cancelSeen => some (.closing lease)
  | .campaignPause lease _, .cancelSeen => some (.closing lease)
  | .leading lease _, .cancelSeen => some (.closing lease)
  | .closing lease, .sessionClosed _ => some (.closed lease)
  | .elected _, .seated => some (.led elector.terms)
  | _, _ => none

variable (elector : Elector) (now : Instant) (signal : Signal)

theorem hear_handles :
    Handles elector.phase.grip (elector.feat? signal) (elector.hear now signal).phase.grip := by
  cases phase : elector.phase <;> cases signal <;>
    simp only [hear, feat?, phase, Phase.grip, stop, stepDown] <;> constructor

theorem hear_reigns : Reigns elector (elector.feat? signal) (elector.hear now signal) := by
  cases phase : elector.phase <;> cases signal <;>
    simp only [hear, feat?, phase, stop, stepDown] <;>
    first
    | exact .kept (by simp only [phase, Phase.term?]) rfl rfl rfl
    | exact .ended (by rw [phase]; rfl) rfl rfl rfl rfl
    | exact .began (by rw [phase]; rfl) rfl rfl rfl

theorem hear_started_yields (yields : elector.phase.yields = true) :
    (elector.hear now .started).phase.yields = true := by
  cases phase : elector.phase <;> simp_all [hear, Phase.yields]

end Elector

structure Career where
  elector : Elector
  /-- The sessions that are lost, be it seen or not. -/
  ended : List Lease := []
  feats : List Feat := []

inductive Incident where
  | run (now : Instant)
  | cancel
  | expire (lease : Lease)
  | hear (now : Instant) (signal : Signal)
deriving DecidableEq, Repr

namespace Career

/-- The signals that can come. A session that is opened is a new one, no end of a session is
seen that has not come, and once told to stop an elector gets no more answers of the service
but those to a close. Either end of a pause may come first. -/
def hears (career : Career) : Signal → Bool
  | .started => false
  | .pauseOver => true
  | .seated => true
  | .sessionClosed _ => true
  | .cancelSeen => career.elector.cancelled
  | .sessionOpened lease =>
    !career.elector.cancelled && !career.feats.contains (.opened lease)
  | .sessionLost =>
    !career.elector.cancelled && career.elector.phase.tenure?.any career.ended.contains
  | _ => !career.elector.cancelled

def hear (career : Career) (now : Instant) (signal : Signal) : Career :=
  { career with
    elector := career.elector.hear now signal
    feats := career.feats ++ (career.elector.feat? signal).toList }

def happen? (career : Career) : Incident → Option Career
  | .run now => some (career.hear now .started)
  | .cancel => some { career with elector := { career.elector with cancelled := true } }
  | .expire lease => some { career with ended := lease :: career.ended }
  | .hear now signal => if career.hears signal then some (career.hear now signal) else none

def follow? (career : Career) (incidents : List Incident) : Option Career :=
  incidents.foldlM happen? career

inductive Changes (career : Career) : Career → Prop
  | heard (now : Instant) {signal : Signal} : career.hears signal = true ∨ signal = .started →
      Changes career (career.hear now signal)
  | cancelled : Changes career { career with elector := { career.elector with cancelled := true } }
  | expired (lease : Lease) : Changes career { career with ended := lease :: career.ended }

variable {career next last : Career}

theorem happen?_changes {incident : Incident} (happened : career.happen? incident = some next) :
    career.Changes next := by
  cases incident with
  | run now =>
      cases happened
      exact .heard now (.inr rfl)
  | cancel =>
      cases happened
      exact .cancelled
  | expire lease =>
      cases happened
      exact .expired lease
  | hear now signal =>
      obtain ⟨heard, same⟩ := Option.ite_none_right_eq_some.mp happened
      cases same
      exact .heard now (.inl heard)

theorem follow?_induction {holds : Career → Prop}
    (kept : ∀ career next, career.Changes next → holds career → holds next)
    {incidents : List Incident} (followed : career.follow? incidents = some last)
    (initial : holds career) : holds last :=
  run_induction (fun _ _ career next happened => kept career next (happen?_changes happened))
    followed initial

end Career

/-! What others can see of an elector, who get no turn until it waits for something. -/

inductive Glimpse where
  | outside (incident : Incident)
  /-- The elector hears one thing after another; sessions may be lost the while. -/
  | poll (incidents : List Incident)
deriving DecidableEq, Repr

def Incident.isWithin : Incident → Bool
  | expire _ => true
  | hear _ _ => true
  | _ => false

def Incident.isOutside : Incident → Bool
  | hear _ _ => false
  | _ => true

namespace Career

def pass? (career : Career) : Glimpse → Option Career
  | .outside incident => if incident.isOutside then career.happen? incident else none
  | .poll incidents =>
    if incidents.all Incident.isWithin then
      (career.follow? incidents).filter (·.elector.phase.yields)
    else none

def watch? (career : Career) (glimpses : List Glimpse) : Option Career :=
  glimpses.foldlM pass? career

variable {career next last : Career}

/-- What is kept by all that happens is kept between any two sights of an elector. -/
theorem watch?_induction {holds : Career → Prop}
    (kept : ∀ career next, career.Changes next → holds career → holds next)
    {glimpses : List Glimpse} (watched : career.watch? glimpses = some last)
    (initial : holds career) : holds last := by
  refine run_induction (fun glimpse _ career next passed holding => ?_) watched initial
  cases glimpse with
  | outside incident =>
      obtain ⟨_, happened⟩ := Option.ite_none_right_eq_some.mp passed
      exact kept career next (happen?_changes happened) holding
  | poll incidents =>
      obtain ⟨_, polled⟩ := Option.ite_none_right_eq_some.mp passed
      obtain ⟨followed, _⟩ := Option.filter_eq_some_iff.mp polled
      exact follow?_induction kept followed holding

theorem pass?_yields {glimpse : Glimpse} (passed : career.pass? glimpse = some next)
    (yields : career.elector.phase.yields = true) : next.elector.phase.yields = true := by
  cases glimpse with
  | outside incident =>
      obtain ⟨outside, happened⟩ := Option.ite_none_right_eq_some.mp passed
      cases incident with
      | run now =>
          cases happened
          exact career.elector.hear_started_yields now yields
      | cancel =>
          cases happened
          exact yields
      | expire lease =>
          cases happened
          exact yields
      | hear => cases outside
  | poll incidents =>
      obtain ⟨_, polled⟩ := Option.ite_none_right_eq_some.mp passed
      exact (Option.filter_eq_some_iff.mp polled).2

theorem watch?_yields {glimpses : List Glimpse} (watched : career.watch? glimpses = some last)
    (initial : career.elector.phase.yields = true) : last.elector.phase.yields = true :=
  run_induction (fun _ _ _ _ passed yields => pass?_yields passed yields) watched initial

end Career

end Rota.Election
