import Rota.Proofs.Election.Deadline

/-!
The rounds of a loop that keeps a lease alive. Each round asks for one renewal, and what becomes
of it follows from the answer, from when it comes and from the deadline in force. Main statement:
the loop finishes exactly when a round closes that is not kept, and asks for the next renewal an
interval after each one that is.
-/

namespace Rota.Election

open KeepAlive

/-- One renewal: when it is asked for, the deadline then in force, the last instant that the clock
can show, and the answers to come. -/
structure Round where
  asked : Instant
  deadline : Instant
  clockEnd : Instant
  renewals : List Renewal

inductive Fate where
  /-- The lease is prolonged, and a further round follows. -/
  | kept (next : Round)
  | lost
  /-- The new deadline lies beyond what the clock can show. -/
  | brokenOff

def Fate.next? : Fate → Option Round
  | kept next => some next
  | _ => none

namespace Round

/-- Until when an answer counts. One that comes at once counts even after the deadline. -/
def patience (round : Round) : Instant := max round.asked round.deadline

def renewal (regular : Renewal) (round : Round) : Renewal := round.renewals.headD regular

def answered? (regular : Renewal) (round : Round) : Option (Instant × Except String Int) :=
  let renewal := round.renewal regular
  let instant := round.asked + renewal.delay.getD 0
  if renewal.hangs = true ∨ round.patience < instant then none else some (instant, renewal.answer)

/-- When it is decided what becomes of a round. -/
def closed (regular : Renewal) (round : Round) : Instant :=
  ((round.answered? regular).map Prod.fst).getD round.patience

def verdict (lifetime : Duration) (round : Round) (instant : Instant)
    (answer : Except String Int) : Fate :=
  match grant? answer with
  | none => .lost
  | some seconds =>
    if round.clockEnd < instant + seconds * 1000 then .brokenOff
    else .kept { round with
      asked := instant + interval lifetime
      deadline := instant + seconds * 1000
      renewals := round.renewals.tail }

def fate (lifetime : Duration) (regular : Renewal) (round : Round) : Fate :=
  match round.answered? regular with
  | none => .lost
  | some (instant, answer) => round.verdict lifetime instant answer

def first (lifetime : Duration) (start clockEnd : Instant) (renewals : List Renewal) : Round :=
  { asked := start + interval lifetime, deadline := start + lifetime, clockEnd, renewals }

/-- The round that comes after so many others. -/
def after? (lifetime : Duration) (regular : Renewal) (round : Round) : Nat → Option Round
  | 0 => some round
  | count + 1 => (round.after? lifetime regular count).bind fun last =>
      (last.fate lifetime regular).next?

/-- When the first so many renewals are asked for. -/
def askedFirst (lifetime : Duration) (regular : Renewal) (round : Round) (count : Nat) :
    List Instant :=
  (List.range count).filterMap fun place => (round.after? lifetime regular place).map Round.asked

variable {lifetime : Duration} {regular : Renewal} {round next : Round}

theorem closed_of_answered {instant : Instant} {answer : Except String Int}
    (answered : round.answered? regular = some (instant, answer)) :
    round.closed regular = instant := by
  rw [closed, answered, Option.map_some, Option.getD_some]

theorem closed_of_unanswered (unanswered : round.answered? regular = none) :
    round.closed regular = round.patience := by
  rw [closed, unanswered, Option.map_none, Option.getD_none]

theorem asked_le_closed (regular : Renewal) (round : Round) :
    round.asked ≤ round.closed regular := by
  simp only [closed, answered?]
  split
  · exact Nat.le_max_left _ _
  · exact Nat.le_add_right _ _

theorem of_kept (kept : round.fate lifetime regular = .kept next) :
    next.asked = round.closed regular + interval lifetime ∧ next.clockEnd = round.clockEnd := by
  simp only [fate] at kept
  split at kept
  · simp at kept
  · rename_i instant answer answered
    simp only [verdict] at kept
    split at kept
    · simp at kept
    · split at kept
      · simp at kept
      · cases kept
        rw [closed_of_answered answered]
        exact ⟨rfl, rfl⟩

end Round

theorem askedFirst_succ {lifetime : Duration} {regular : Renewal} {first round : Round}
    {count : Nat} (reached : first.after? lifetime regular count = some round) :
    first.askedFirst lifetime regular (count + 1) =
      first.askedFirst lifetime regular count ++ [round.asked] := by
  simp [Round.askedFirst, List.range_succ, reached]

theorem interval_pos {lifetime : Duration} (positive : 0 < lifetime) : 0 < interval lifetime := by
  simp only [interval]
  lia

section

variable {lifetime : Duration} {regular : Renewal} {first round : Round}

theorem after?_succ {place : Nat} {later : Round}
    (reached : first.after? lifetime regular (place + 1) = some later) :
    ∃ round, first.after? lifetime regular place = some round ∧
      round.fate lifetime regular = .kept later := by
  simp only [Round.after?, Option.bind_eq_some_iff] at reached
  obtain ⟨round, reached, kept⟩ := reached
  refine ⟨round, reached, ?_⟩
  cases fate : round.fate lifetime regular <;> simp_all [Fate.next?]

theorem after?_clockEnd {place : Nat}
    (reached : first.after? lifetime regular place = some round) :
    round.clockEnd = first.clockEnd := by
  induction place generalizing round with
  | zero =>
      cases reached
      rfl
  | succ place ih =>
      obtain ⟨last, lastReached, kept⟩ := after?_succ reached
      exact (Round.of_kept kept).2.trans (ih lastReached)

/-- A later round is asked for after an earlier one is closed. -/
theorem closed_lt_asked (positive : 0 < lifetime) {place later : Nat} {earlier : Round}
    (reached : first.after? lifetime regular place = some earlier) (before : place < later)
    (laterReached : first.after? lifetime regular later = some round) :
    earlier.fate lifetime regular ≠ .lost ∧ earlier.fate lifetime regular ≠ .brokenOff ∧
      earlier.closed regular < round.asked := by
  induction later generalizing round with
  | zero => omega
  | succ later ih =>
      obtain ⟨last, lastReached, kept⟩ := after?_succ laterReached
      have asked := (Round.of_kept kept).1
      have rests := interval_pos positive
      by_cases same : place = later
      · subst same
        obtain rfl := Option.some.inj (reached.symm.trans lastReached)
        refine ⟨by simp [kept], by simp [kept], ?_⟩
        lia
      · obtain ⟨unlost, unbroken, ordered⟩ := ih (by omega) lastReached
        have closes := Round.asked_le_closed regular last
        exact ⟨unlost, unbroken, by lia⟩

end

def renewalsAsked (journal : Journal) : List Instant :=
  (journal.events.filterMap fun (instant, event) =>
    match event with
    | .renewed => some instant
    | _ => none).reverse

theorem renewalsAsked_finish (loop : KeepAlive) (now : Instant) (journal : Journal) :
    renewalsAsked (loop.finish now journal).2 = renewalsAsked journal := by
  simp only [finish]
  split <;> rfl

theorem renewalsAsked_takeAnswer (loop : KeepAlive) (now : Instant)
    (answer : Except String Int) (journal : Journal) :
    renewalsAsked (loop.takeAnswer now answer journal).2 = renewalsAsked journal := by
  simp only [takeAnswer]
  split
  · split
    · exact renewalsAsked_finish _ _ _
    · rfl
  · exact renewalsAsked_finish _ _ _

theorem renewalsAsked_renewed (now : Instant) (journal : Journal) :
    renewalsAsked (journal.record now .renewed) = renewalsAsked journal ++ [now] := by
  simp [renewalsAsked, Journal.record]

theorem takeAnswer_loop (loop : KeepAlive) (now : Instant) (journal : Journal)
    (answer : Except String Int) :
    (loop.takeAnswer now answer journal).1 = match grant? answer with
      | none => loop.ended
      | some seconds => loop.prolong now seconds := by
  cases answer with
  | error reason => rfl
  | ok granted =>
      by_cases refused : granted ≤ 0
      · simp only [takeAnswer, grant?, refused, if_true]
        rfl
      · simp only [takeAnswer, grant?, refused, if_false]

/-- The answer that a loop awaits in a round. -/
inductive Round.Awaits (regular : Renewal) (round : Round) :
    Option (Instant × Except String Int) → Prop
  | never : (round.renewal regular).hangs = true → Awaits regular round none
  | later {delay : Duration} : (round.renewal regular).hangs = false →
      (round.renewal regular).delay.getD 0 = delay → 0 < delay →
      Awaits regular round (some (round.asked + delay, (round.renewal regular).answer))

/-- Where a loop stands in a round, with the answers left and the number of renewals asked for. -/
inductive Stage (lifetime : Duration) (regular : Renewal) (now : Instant) (place : Nat)
    (round : Round) : KeepAlive → List Renewal → Nat → Prop
  | resting {loop : KeepAlive} : loop.phase = .resting round.asked →
      loop.deadline = round.deadline → loop.done = false → now ≤ round.asked →
      Stage lifetime regular now place round loop round.renewals place
  | renewing {loop : KeepAlive} {awaited} : loop.phase = .renewing awaited →
      round.Awaits regular awaited → loop.deadline = round.deadline → loop.done = false →
      now = round.asked →
      Stage lifetime regular now place round loop round.renewals.tail (place + 1)
  | lost {loop : KeepAlive} : loop.phase = .over → loop.done = true →
      round.fate lifetime regular = .lost → round.closed regular ≤ now →
      Stage lifetime regular now place round loop round.renewals.tail (place + 1)
  | brokenOff {loop : KeepAlive} : loop.phase = .brokenOff → loop.done = false →
      round.fate lifetime regular = .brokenOff → round.closed regular ≤ now →
      Stage lifetime regular now place round loop round.renewals.tail (place + 1)

structure Stands (lifetime : Duration) (regular : Renewal) (first : Round) (now : Instant)
    (loop : KeepAlive) (renewals : List Renewal) (journal : Journal) (place count : Nat)
    (round : Round) : Prop where
  reached : first.after? lifetime regular place = some round
  same : loop.lifetime = lifetime
  clock : loop.clockEnd = first.clockEnd
  asked : renewalsAsked journal = first.askedFirst lifetime regular count
  past : ∀ earlier asking, earlier < count →
    first.after? lifetime regular earlier = some asking → asking.asked ≤ now
  stage : Stage lifetime regular now place round loop renewals count

section

variable {lifetime : Duration} {regular : Renewal} {first round : Round} {now : Instant}
  {loop : KeepAlive} {renewals : List Renewal} {journal : Journal} {place count : Nat}

theorem begin_stands (lease : Lease) {start clockEnd : Instant}
    (shown : start + lifetime ≤ clockEnd) (renewals : List Renewal) (regular : Renewal) :
    Stands lifetime regular (.first lifetime start clockEnd renewals) start
      (KeepAlive.begin lease lifetime start clockEnd) renewals {} 0 0
      (.first lifetime start clockEnd renewals) where
  reached := rfl
  same := rfl
  clock := rfl
  asked := rfl
  past := by omega
  stage := .resting (if_neg (Nat.not_lt_of_le shown)) rfl rfl (Nat.le_add_right _ _)

theorem takeAnswer_stands {instant : Instant} {answer : Except String Int}
    (reached : first.after? lifetime regular place = some round)
    (answered : round.answered? regular = some (instant, answer))
    (same : loop.lifetime = lifetime) (clock : loop.clockEnd = first.clockEnd)
    (going : loop.done = false)
    (asked : renewalsAsked journal = first.askedFirst lifetime regular (place + 1))
    (past : ∀ earlier asking, earlier < place + 1 →
      first.after? lifetime regular earlier = some asking → asking.asked ≤ instant) :
    ∃ place count round', Stands lifetime regular first instant
      (loop.takeAnswer instant answer journal).1 round.renewals.tail
      (loop.takeAnswer instant answer journal).2 place count round' := by
  have closed : round.closed regular ≤ instant :=
    Nat.le_of_eq (Round.closed_of_answered answered)
  have askedToo := (renewalsAsked_takeAnswer loop instant answer journal).trans asked
  have fate : round.fate lifetime regular = round.verdict lifetime instant answer := by
    simp [Round.fate, answered]
  have taken := takeAnswer_loop loop instant journal answer
  generalize loop.takeAnswer instant answer journal = result at askedToo taken ⊢
  obtain ⟨next, journal⟩ := result
  simp only [Round.verdict] at fate
  simp only at taken
  subst taken
  cases granted : grant? answer with
  | none =>
      simp only [granted] at fate ⊢
      exact ⟨place, place + 1, round, reached, same, clock, askedToo, past,
        .lost rfl rfl fate closed⟩
  | some seconds =>
      have clocks : loop.clockEnd = round.clockEnd := clock.trans (after?_clockEnd reached).symm
      by_cases beyond : round.clockEnd < instant + seconds * 1000
      · have unshown : loop.clockEnd < instant + seconds * 1000 := clocks ▸ beyond
        simp only [granted, prolong, unshown, beyond, if_true] at fate ⊢
        exact ⟨place, place + 1, round, reached, same, clock, askedToo, past,
          .brokenOff rfl going fate closed⟩
      · have shown : ¬loop.clockEnd < instant + seconds * 1000 := clocks ▸ beyond
        simp only [granted, prolong, shown, beyond, if_false] at fate ⊢
        let next : Round := { round with
          asked := instant + interval lifetime
          deadline := instant + seconds * 1000
          renewals := round.renewals.tail }
        have follows : first.after? lifetime regular (place + 1) = some next := by
          simp only [Round.after?, reached, Option.bind_some, fate, Fate.next?, next]
        refine ⟨place + 1, place + 1, next, follows, same, clock, askedToo, past, ?_⟩
        exact .resting (by simp [next, same]) rfl going (Nat.le_add_right _ _)

theorem expire_stands {instant : Instant}
    (reached : first.after? lifetime regular place = some round)
    (unanswered : round.answered? regular = none) (same : loop.lifetime = lifetime)
    (clock : loop.clockEnd = first.clockEnd)
    (asked : renewalsAsked journal = first.askedFirst lifetime regular (place + 1))
    (past : ∀ earlier asking, earlier < place + 1 →
      first.after? lifetime regular earlier = some asking → asking.asked ≤ instant)
    (patient : round.patience ≤ instant) :
    ∃ place count round', Stands lifetime regular first instant
      (loop.expire instant journal).1 round.renewals.tail
      (loop.expire instant journal).2 place count round' := by
  have askedToo := renewalsAsked_finish loop instant
    (journal.note instant (.deadlinePassed loop.lease))
  refine ⟨place, place + 1, round, reached, same, clock, askedToo.trans asked, past,
    .lost rfl rfl ?_ ?_⟩
  · simp [Round.fate, unanswered]
  · rwa [Round.closed_of_unanswered unanswered]

theorem Round.Awaits.answered {instant : Instant} {answer : Except String Int}
    (awaits : round.Awaits regular (some (instant, answer))) (early : instant ≤ round.deadline) :
    round.answered? regular = some (instant, answer) := by
  cases awaits with
  | later answers delayed positive =>
      have counts : ¬round.patience < round.asked + (round.renewal regular).delay.getD 0 := by
        rw [Round.patience]
        lia
      simp only [Round.answered?, answers, counts]
      simp [delayed]

theorem Round.Awaits.unanswered {awaited : Option (Instant × Except String Int)}
    (awaits : round.Awaits regular awaited)
    (late : ∀ instant answer, awaited = some (instant, answer) → round.deadline < instant) :
    round.answered? regular = none := by
  cases awaits with
  | never hangs => simp only [Round.answered?, hangs, true_or, if_true]
  | @later delay answers delayed positive =>
      have misses : round.patience < round.asked + (round.renewal regular).delay.getD 0 := by
        have after := late _ _ rfl
        rw [Round.patience]
        lia
      simp only [Round.answered?, misses, or_true, if_true]

theorem renew_stands (reached : first.after? lifetime regular place = some round)
    (same : loop.lifetime = lifetime) (clock : loop.clockEnd = first.clockEnd)
    (deadline : loop.deadline = round.deadline) (going : loop.done = false)
    (asked : renewalsAsked journal = first.askedFirst lifetime regular place)
    (past : ∀ earlier asking, earlier < place →
      first.after? lifetime regular earlier = some asking → asking.asked ≤ round.asked) :
    ∃ place count round', Stands lifetime regular first round.asked
      (loop.renew round.asked (round.renewal regular) journal).1 round.renewals.tail
      (loop.renew round.asked (round.renewal regular) journal).2 place count round' := by
  have askedToo : renewalsAsked (journal.record round.asked .renewed) =
      first.askedFirst lifetime regular (place + 1) := by
    rw [renewalsAsked_renewed, asked, askedFirst_succ reached]
  have pastToo : ∀ earlier asking, earlier < place + 1 →
      first.after? lifetime regular earlier = some asking → asking.asked ≤ round.asked := by
    intro earlier asking before found
    by_cases last : earlier = place
    · subst last
      obtain rfl := Option.some.inj (reached.symm.trans found)
      exact Nat.le_refl _
    · exact past earlier asking (by omega) found
  cases hangs : (round.renewal regular).hangs with
  | true =>
      simp only [renew, hangs, if_true]
      exact ⟨place, place + 1, round, reached, same, clock, askedToo, pastToo,
        .renewing rfl (.never hangs) deadline going rfl⟩
  | false =>
      simp only [renew, hangs, Bool.false_eq_true, if_false]
      split
      · rename_i delayed
        refine takeAnswer_stands reached ?_ same clock going askedToo pastToo
        have counts : ¬max round.asked round.deadline < round.asked := by lia
        simp [Round.answered?, hangs, delayed, Round.patience, counts]
      · rename_i delay delayed
        exact ⟨place, place + 1, round, reached, same, clock, askedToo, pastToo,
          .renewing rfl (.later hangs rfl (Nat.pos_of_ne_zero delayed)) deadline going rfl⟩

theorem Stands.advance {wake : Instant}
    (stands : Stands lifetime regular first now loop renewals journal place count round)
    (due : loop.nextWake = some wake) :
    ∃ place count round', Stands lifetime regular first (max now wake)
      (loop.advance (max now wake) renewals regular journal).1
      (loop.advance (max now wake) renewals regular journal).2.1
      (loop.advance (max now wake) renewals regular journal).2.2 place count round' := by
  obtain ⟨reached, same, clock, asked, past, stage⟩ := stands
  cases stage with
  | resting phase deadline going early =>
      have askedNow : max now wake = round.asked := by
        simp only [nextWake, phase, Option.some.injEq] at due
        lia
      have advanced : loop.advance round.asked round.renewals regular journal =
          ((loop.renew round.asked (round.renewal regular) journal).1, round.renewals.tail,
            (loop.renew round.asked (round.renewal regular) journal).2) := by
        simp only [KeepAlive.advance, phase]
        rfl
      rw [askedNow, advanced]
      refine renew_stands reached same clock deadline going asked
        fun earlier asking before found => ?_
      exact Nat.le_trans (past earlier asking before found) early
  | renewing phase awaits deadline going current =>
      have pastToo : ∀ earlier asking, earlier < place + 1 →
          first.after? lifetime regular earlier = some asking → asking.asked ≤ max now wake :=
        fun earlier asking before found =>
          Nat.le_trans (past earlier asking before found) (Nat.le_max_left _ _)
      cases _ : awaits with
      | never =>
          simp only [nextWake, phase, Option.some.injEq] at due
          simp only [KeepAlive.advance, phase]
          refine expire_stands reached (awaits.unanswered (by simp)) same clock asked pastToo ?_
          refine Nat.le_of_eq ?_
          rw [Round.patience, ← current, ← deadline, due]
      | @later delay =>
          simp only [nextWake, phase, Option.some.injEq] at due
          simp only [KeepAlive.advance, phase]
          by_cases early : round.asked + delay ≤ loop.deadline
          · have answeredNow : max now wake = round.asked + delay := by lia
            rw [answeredNow] at pastToo ⊢
            simp only [early, if_true]
            exact takeAnswer_stands reached (awaits.answered (deadline ▸ early)) same clock going
              asked pastToo
          · simp only [early, if_false]
            refine expire_stands reached (awaits.unanswered ?_) same clock asked pastToo ?_
            · rintro instant answer ⟨⟩
              exact deadline ▸ Nat.lt_of_not_le early
            · rw [Round.patience, ← current, ← deadline]
              lia
  | lost stopped => simp [nextWake, stopped] at due
  | brokenOff broken => simp [nextWake, broken] at due

/-! Runs until an instant. -/

/-- How many happenings can still come until an instant. -/
def happeningsUntil (target now : Instant) (loop : KeepAlive) : Nat :=
  match loop.nextWake with
  | none => 0
  | some wake =>
    if wake ≤ target then
      2 * (target - max now wake) + match loop.phase with
        | .resting _ => 2
        | _ => 1
    else 0

theorem happeningsUntil_le (target now : Instant) (loop : KeepAlive) :
    happeningsUntil target now loop ≤ 2 * (target - now) + 2 := by
  simp only [happeningsUntil]
  split
  · omega
  · split
    · split <;> omega
    · omega

theorem advance_happeningsUntil (now : Instant) (renewals : List Renewal) (regular : Renewal)
    (journal : Journal) (positive : 0 < loop.lifetime) {target wake : Instant}
    (due : loop.nextWake = some wake) (inTime : wake ≤ target) :
    happeningsUntil target (max now wake)
        (loop.advance (max now wake) renewals regular journal).1 <
      happeningsUntil target now loop := by
  have outcome := advance_outcome loop (max now wake) journal renewals regular
    (Upkeep.hasFinished_of_nextWake due)
  generalize (loop.advance (max now wake) renewals regular journal).1 = next at outcome ⊢
  generalize (loop.taken? (renewals.headD regular)).bind grant? = granted at outcome
  have left : 2 * (target - max now wake) + 1 ≤ happeningsUntil target now loop := by
    simp only [happeningsUntil, due, inTime, if_true]
    split <;> lia
  have asks {instant : Instant} (resting : loop.phase = .resting instant) :
      2 * (target - max now wake) + 2 ≤ happeningsUntil target now loop := by
    simp [happeningsUntil, due, inTime, resting]
  have rests := interval_pos positive
  generalize happeningsUntil target now loop = before at left asks ⊢
  generalize max now wake = later at outcome left asks ⊢
  -- A further round begins an interval later, and that time pays for its two happenings.
  cases outcome with
  | @prolonged seconds =>
      by_cases beyond : loop.clockEnd < later + seconds * 1000
      · simp only [prolong, beyond, if_true, happeningsUntil, nextWake]
        lia
      · simp only [prolong, beyond, if_false, happeningsUntil, nextWake]
        split <;> lia
  | ended =>
      simp only [ended, happeningsUntil, nextWake]
      lia
  | asked resting =>
      have more := asks resting
      simp only [happeningsUntil]
      split
      · lia
      · split <;> lia

/-- With enough fuel a loop runs until nothing more is due. -/
theorem Stands.runFor (positive : 0 < lifetime) {target : Instant} (fuel : Nat)
    (stands : Stands lifetime regular first now loop renewals journal place count round)
    (early : now ≤ target) (enough : happeningsUntil target now loop ≤ fuel) :
    ∃ later place count round', later ≤ target ∧
      Stands lifetime regular first later
        (KeepAlive.runFor target regular fuel now (loop, renewals, journal)).1
        (KeepAlive.runFor target regular fuel now (loop, renewals, journal)).2.1
        (KeepAlive.runFor target regular fuel now (loop, renewals, journal)).2.2
        place count round' ∧
      ∀ wake, (KeepAlive.runFor target regular fuel now
        (loop, renewals, journal)).1.nextWake = some wake → target < wake := by
  induction fuel generalizing now loop renewals journal place count round with
  | zero =>
      refine ⟨now, place, count, round, early, stands, fun wake due => ?_⟩
      have due : loop.nextWake = some wake := due
      apply Nat.lt_of_not_le
      intro inTime
      simp only [happeningsUntil, due, inTime, if_true] at enough
      split at enough <;> omega
  | succ fuel ih =>
      cases due : loop.nextWake with
      | none =>
          have same : KeepAlive.runFor target regular (fuel + 1) now (loop, renewals, journal) =
              (loop, renewals, journal) := by simp [KeepAlive.runFor, due]
          rw [same]
          exact ⟨now, place, count, round, early, stands, by simp [due]⟩
      | some wake =>
          by_cases inTime : wake ≤ target
          · obtain ⟨nextPlace, nextCount, nextRound, after⟩ := stands.advance due
            have fewer := advance_happeningsUntil now renewals regular journal
              (stands.same ▸ positive) due inTime
            have same : KeepAlive.runFor target regular (fuel + 1) now (loop, renewals, journal) =
                KeepAlive.runFor target regular fuel (max now wake)
                  (loop.advance (max now wake) renewals regular journal) := by
              simp [KeepAlive.runFor, due, inTime]
            rw [same]
            exact ih after (Nat.max_le.mpr ⟨early, inTime⟩)
              (Nat.le_of_lt_succ (Nat.lt_of_lt_of_le fewer enough))
          · have same : KeepAlive.runFor target regular (fuel + 1) now (loop, renewals, journal) =
                (loop, renewals, journal) := by simp [KeepAlive.runFor, due, inTime]
            rw [same]
            refine ⟨now, place, count, round, early, stands, fun other dueToo => ?_⟩
            obtain rfl := Option.some.inj (due.symm.trans dueToo)
            exact Nat.lt_of_not_le inTime

theorem Stands.runUntil (positive : 0 < lifetime) {target : Instant}
    (stands : Stands lifetime regular first now loop renewals journal place count round)
    (early : now ≤ target) :
    let ran := loop.runUntil now target regular renewals journal
    ∃ later place count round', later ≤ target ∧
      Stands lifetime regular first later ran.1 ran.2.1 ran.2.2 place count round' ∧
      ∀ wake, ran.1.nextWake = some wake → target < wake :=
  Stands.runFor positive _ stands early (happeningsUntil_le target now loop)

/-- While a loop goes on, its round is not closed before it has something to do. -/
theorem Stands.open_until {target : Instant}
    (stands : Stands lifetime regular first now loop renewals journal place count round)
    (unfinished : loop.hasFinished = false)
    (undue : ∀ wake, loop.nextWake = some wake → target < wake) :
    target < round.closed regular ∧ loop.done = false := by
  cases stands.stage with
  | resting phase _ going =>
      have ahead := undue round.asked (by simp [nextWake, phase])
      exact ⟨Nat.lt_of_lt_of_le ahead (Round.asked_le_closed regular round), going⟩
  | renewing phase awaits deadline going =>
      refine ⟨?_, going⟩
      cases _ : awaits with
      | never =>
          have ahead := undue loop.deadline (by simp [nextWake, phase])
          rw [Round.closed_of_unanswered (awaits.unanswered (by simp)), Round.patience]
          lia
      | @later delay =>
          have ahead := undue (min (round.asked + delay) loop.deadline) (by simp [nextWake, phase])
          by_cases early : round.asked + delay ≤ round.deadline
          · rw [Round.closed_of_answered (awaits.answered early)]
            lia
          · have unanswered : round.answered? regular = none := by
              refine awaits.unanswered ?_
              rintro instant answer ⟨⟩
              exact Nat.lt_of_not_le early
            rw [Round.closed_of_unanswered unanswered, Round.patience]
            lia
  | lost stopped => simp [hasFinished, stopped] at unfinished
  | brokenOff broken => simp [hasFinished, broken] at unfinished

theorem last_of_unkept (positive : 0 < lifetime)
    (reached : first.after? lifetime regular place = some round)
    (unkept : round.fate lifetime regular = .lost ∨ round.fate lifetime regular = .brokenOff)
    {other : Nat} {later : Round} (found : first.after? lifetime regular other = some later) :
    other ≤ place := by
  apply Nat.le_of_not_lt
  intro after
  obtain ⟨unlost, unbroken, _⟩ := closed_lt_asked positive reached after found
  exact unkept.elim unlost unbroken

/-- A loop that finished did so in a round that is closed and was not kept. -/
theorem Stands.finished
    (stands : Stands lifetime regular first now loop renewals journal place count round)
    (finished : loop.hasFinished = true) :
    round.closed regular ≤ now ∧ (round.fate lifetime regular = .lost ∧ loop.done = true ∨
      round.fate lifetime regular = .brokenOff ∧ loop.done = false) := by
  cases stands.stage with
  | resting phase => simp [hasFinished, phase] at finished
  | renewing phase => simp [hasFinished, phase] at finished
  | lost _ done fate closed => exact ⟨closed, .inl ⟨fate, done⟩⟩
  | brokenOff _ undone fate closed => exact ⟨closed, .inr ⟨fate, undone⟩⟩

/-- Of the rounds that are closed by an instant, a loop that still goes on then has kept all. -/
theorem Stands.unfinished {target : Instant} (positive : 0 < lifetime)
    (stands : Stands lifetime regular first now loop renewals journal place count round)
    (unfinished : loop.hasFinished = false)
    (undue : ∀ wake, loop.nextWake = some wake → target < wake) {other : Nat} {asking : Round}
    (found : first.after? lifetime regular other = some asking)
    (closed : asking.closed regular ≤ target) :
    asking.fate lifetime regular ≠ .lost ∧ asking.fate lifetime regular ≠ .brokenOff := by
  have ahead := (stands.open_until unfinished undue).1
  rcases Nat.lt_trichotomy other place with before | rfl | after
  · obtain ⟨unlost, unbroken, _⟩ := closed_lt_asked positive found before stands.reached
    exact ⟨unlost, unbroken⟩
  · obtain rfl := Option.some.inj (stands.reached.symm.trans found)
    lia
  · have follows := (closed_lt_asked positive stands.reached after found).2.2
    have closes := Round.asked_le_closed regular asking
    lia

theorem Stands.finished_iff {target : Instant} (positive : 0 < lifetime)
    (stands : Stands lifetime regular first now loop renewals journal place count round)
    (inTime : now ≤ target) (undue : ∀ wake, loop.nextWake = some wake → target < wake) :
    loop.hasFinished = true ↔ ∃ place round, first.after? lifetime regular place = some round ∧
      round.closed regular ≤ target ∧
        (round.fate lifetime regular = .lost ∨ round.fate lifetime regular = .brokenOff) := by
  constructor
  · intro finished
    obtain ⟨closed, fate⟩ := stands.finished finished
    refine ⟨place, round, stands.reached, Nat.le_trans closed inTime, ?_⟩
    exact fate.imp And.left And.left
  · rintro ⟨other, asking, found, closed, unkept⟩
    rw [← Bool.not_eq_false]
    intro unfinished
    obtain ⟨unlost, unbroken⟩ := stands.unfinished positive unfinished undue found closed
    exact unkept.elim unlost unbroken

theorem Stands.done_iff {target : Instant} (positive : 0 < lifetime)
    (stands : Stands lifetime regular first now loop renewals journal place count round)
    (inTime : now ≤ target) (undue : ∀ wake, loop.nextWake = some wake → target < wake) :
    loop.done = true ↔ ∃ place round, first.after? lifetime regular place = some round ∧
      round.closed regular ≤ target ∧ round.fate lifetime regular = .lost := by
  constructor
  · intro done
    have finished : loop.hasFinished = true := by
      rw [← Bool.not_eq_false]
      intro unfinished
      simp [(stands.open_until unfinished undue).2] at done
    obtain ⟨closed, ⟨fate, _⟩ | ⟨_, undone⟩⟩ := stands.finished finished
    · exact ⟨place, round, stands.reached, Nat.le_trans closed inTime, fate⟩
    · simp [done] at undone
  · rintro ⟨other, asking, found, closed, lost⟩
    have finished := (stands.finished_iff positive inTime undue).mpr
      ⟨other, asking, found, closed, .inl lost⟩
    obtain ⟨_, ⟨_, done⟩ | ⟨broken, _⟩⟩ := stands.finished finished
    · exact done
    · -- There is only one round that is not kept, and it is not both.
      have before := last_of_unkept positive stands.reached (.inr broken) found
      have after := last_of_unkept positive found (.inl lost) stands.reached
      obtain rfl := Nat.le_antisymm before after
      obtain rfl := Option.some.inj (stands.reached.symm.trans found)
      simp [lost] at broken

/-- A loop has asked for the renewals of just those rounds that are to be asked for by then. -/
theorem Stands.asked_iff {target : Instant} (positive : 0 < lifetime)
    (stands : Stands lifetime regular first now loop renewals journal place count round)
    (inTime : now ≤ target) (undue : ∀ wake, loop.nextWake = some wake → target < wake)
    {other : Nat} {asking : Round} (found : first.after? lifetime regular other = some asking) :
    other < count ↔ asking.asked ≤ target := by
  constructor
  · exact fun before => Nat.le_trans (stands.past other asking before found) inTime
  · intro early
    have ends (unfinished : loop.hasFinished = false) : other ≤ place := by
      apply Nat.le_of_not_lt
      intro after
      have ahead := (stands.open_until unfinished undue).1
      have follows := (closed_lt_asked positive stands.reached after found).2.2
      lia
    have reached := stands.reached
    cases stands.stage with
    | resting phase =>
        have before := ends (by simp [hasFinished, phase])
        have ahead := undue round.asked (by simp [nextWake, phase])
        apply Nat.lt_of_le_of_ne before
        rintro rfl
        obtain rfl := Option.some.inj (reached.symm.trans found)
        lia
    | renewing phase => exact Nat.lt_succ_of_le (ends (by simp [hasFinished, phase]))
    | lost _ _ fate =>
        exact Nat.lt_succ_of_le (last_of_unkept positive reached (.inl fate) found)
    | brokenOff _ _ fate =>
        exact Nat.lt_succ_of_le (last_of_unkept positive reached (.inr fate) found)

/-- While all rounds are kept there is always another one. -/
theorem exists_after? (kept : ∀ place round, first.after? lifetime regular place = some round →
    ∃ next, round.fate lifetime regular = .kept next) (place : Nat) :
    ∃ round next, first.after? lifetime regular place = some round ∧
      first.after? lifetime regular (place + 1) = some next ∧
      next.asked = round.closed regular + interval lifetime := by
  have goesOn {place : Nat} {round : Round}
      (reached : first.after? lifetime regular place = some round) :
      ∃ next, first.after? lifetime regular (place + 1) = some next ∧
        next.asked = round.closed regular + interval lifetime := by
    obtain ⟨next, fate⟩ := kept place round reached
    exact ⟨next, by simp [Round.after?, reached, fate, Fate.next?], (Round.of_kept fate).1⟩
  induction place with
  | zero =>
      have opens : first.after? lifetime regular 0 = some first := rfl
      obtain ⟨next, follows, asked⟩ := goesOn opens
      exact ⟨first, next, opens, follows, asked⟩
  | succ place ih =>
      obtain ⟨_, round, _, reached, _⟩ := ih
      obtain ⟨next, follows, asked⟩ := goesOn reached
      exact ⟨round, next, reached, follows, asked⟩

/-- Nothing happens any more to a loop that has finished. -/
theorem runUntil_of_hasFinished (finished : loop.hasFinished = true) (now target : Instant)
    (regular : Renewal) (renewals : List Renewal) (journal : Journal) :
    loop.runUntil now target regular renewals journal = (loop, renewals, journal) := by
  have idle : loop.nextWake = none := by
    cases phase : loop.phase <;> simp_all [hasFinished, nextWake]
  simp [runUntil, KeepAlive.runFor, idle]

theorem begin_broken (lease : Lease) {start clockEnd : Instant}
    (beyond : clockEnd < start + lifetime) :
    (KeepAlive.begin lease lifetime start clockEnd).hasFinished = true := by
  simp [KeepAlive.begin, hasFinished, beyond]

theorem cancel_ends (loop : KeepAlive) (instant : Instant) (journal : Journal) :
    (loop.cancel instant journal).1.hasFinished = true ∧
      (loop.cancel instant journal).1.done = true ∧
      ∀ target regular renewals later, (loop.cancel instant journal).1.runUntil instant target
        regular renewals later = ((loop.cancel instant journal).1, renewals, later) := by
  have finished := Upkeep.cancel_hasFinished loop instant journal
  exact ⟨finished, rfl, fun target regular renewals later =>
    runUntil_of_hasFinished finished instant target regular renewals later⟩

end

/-- Whatever the clock of the host can show, a loop that keeps a lease alive has finished by an
instant exactly when a round was closed by then that was not kept: its renewal was refused or
failed, or not answered in time, or granted more than the clock can show; the session has ended
unless it was the last. Renewals are asked for in every round that there is, an interval after the
round before was closed, and while all rounds are kept the loop goes on. Only where the clock cannot
even show the first deadline is there no round, and the loop is broken off as it begins. A
cancellation finishes it at once, whatever it is doing. -/
theorem session_ends_with_unkept_round (lease : Lease) {lifetime : Duration}
    (positive : 0 < lifetime) {start target : Instant} (later : start ≤ target)
    (clockEnd : Instant) (renewals : List Renewal) (regular : Renewal) :
    let opening := Round.first lifetime start clockEnd renewals
    let reaches (place : Nat) (round : Round) : Prop :=
      opening.after? lifetime regular place = some round
    let ran :=
      (KeepAlive.begin lease lifetime start clockEnd).runUntil start target regular renewals {}
    (start + lifetime ≤ clockEnd →
      (ran.1.hasFinished = true ↔ ∃ place round, reaches place round ∧
        round.closed regular ≤ target ∧
          (round.fate lifetime regular = .lost ∨ round.fate lifetime regular = .brokenOff)) ∧
      (ran.1.done = true ↔ ∃ place round, reaches place round ∧
        round.closed regular ≤ target ∧ round.fate lifetime regular = .lost) ∧
      (∃ count, renewalsAsked ran.2.2 = opening.askedFirst lifetime regular count ∧
        ∀ place round, reaches place round → (place < count ↔ round.asked ≤ target)) ∧
      ((∀ place round, reaches place round → ∃ instant answer seconds,
        round.answered? regular = some (instant, answer) ∧ grant? answer = some seconds ∧
          instant + seconds * 1000 ≤ clockEnd) →
        ran.1.hasFinished = false ∧ ∀ place, ∃ round next, reaches place round ∧
          reaches (place + 1) next ∧ next.asked = round.closed regular + interval lifetime)) ∧
    (clockEnd < start + lifetime →
      ran.1.hasFinished = true ∧ ran.1.done = false ∧ renewalsAsked ran.2.2 = []) ∧
    ∀ (loop : KeepAlive) instant journal,
      (loop.cancel instant journal).1.hasFinished = true ∧
        (loop.cancel instant journal).1.done = true ∧
        ∀ target regular renewals later, (loop.cancel instant journal).1.runUntil instant target
          regular renewals later = ((loop.cancel instant journal).1, renewals, later) := by
  intro opening reaches ran
  refine ⟨fun shown => ?_, fun beyond => ?_, cancel_ends⟩
  case refine_2 =>
    have finished := begin_broken lease beyond
    have still : ran = (KeepAlive.begin lease lifetime start clockEnd, renewals, {}) :=
      runUntil_of_hasFinished finished start target regular renewals {}
    rw [still]
    exact ⟨finished, rfl, rfl⟩
  obtain ⟨now, place, count, round, inTime, stands, undue⟩ :=
    (begin_stands lease shown renewals regular).runUntil positive later
  have ends := stands.finished_iff positive inTime undue
  refine ⟨ends, stands.done_iff positive inTime undue, ?_, fun granted => ?_⟩
  · exact ⟨count, stands.asked, fun other asking found =>
      stands.asked_iff positive inTime undue found⟩
  · have kept (place : Nat) (round : Round) (reached : reaches place round) :
        ∃ next, round.fate lifetime regular = .kept next := by
      obtain ⟨instant, answer, seconds, answered, grants, fits⟩ := granted place round reached
      have clock : round.clockEnd = clockEnd := after?_clockEnd reached
      simp [Round.fate, answered, Round.verdict, grants, clock, Nat.not_lt_of_le fits]
    refine ⟨?_, exists_after? kept⟩
    rw [← Bool.not_eq_true, ends]
    rintro ⟨other, asking, found, _, unkept⟩
    obtain ⟨next, fate⟩ := kept other asking found
    simp [fate] at unkept

/-- The first renewal is confirmed at three seconds, the second refused a second after it was
asked for at six. -/
def refused : List Renewal := [{ answer := .ok 9 }, { delay := some 1000, answer := .ok 0 }]

theorem refusal_ends_session :
    let ran := (KeepAlive.begin 1 9000 0).runUntil 0 7000 generous refused {}
    0 < 9000 ∧ ran.1.hasFinished = true ∧ ran.1.done = true ∧
      ∃ count, renewalsAsked ran.2.2 =
        (Round.first 9000 0 longestClock refused).askedFirst 9000 generous count := by
  have ends := session_ends_with_unkept_round 1 (show 0 < 9000 by decide)
    (show 0 ≤ 7000 by decide) longestClock refused generous
  obtain ⟨finished, done, ⟨count, asked, _⟩, _⟩ := ends.1 (by decide)
  have lost : ∃ place round,
      (Round.first 9000 0 longestClock refused).after? 9000 generous place = some round ∧
        round.closed generous ≤ 7000 ∧ round.fate 9000 generous = .lost :=
    ⟨1, _, rfl, by decide, rfl⟩
  obtain ⟨place, round, reached, closed, fate⟩ := lost
  exact ⟨by decide, finished.mpr ⟨place, round, reached, closed, .inl fate⟩,
    done.mpr ⟨place, round, reached, closed, fate⟩, count, asked⟩

/-- On no host can a clock that counts its seconds in 64 bits with a sign show the deadline that
comes of the most that can be granted. -/
theorem takeAnswer_boundless {loop : KeepAlive} {now : Instant} (gone : 1000 ≤ now)
    (counted : loop.clockEnd < Decimal.signedLimit * 1000) (journal : Journal) :
    (loop.takeAnswer now (.ok 9223372036854775807) journal).1 =
      { loop with phase := .brokenOff } := by
  have beyond : loop.clockEnd < now + 9223372036854775807 * 1000 := by
    have limit : Decimal.signedLimit = 9223372036854775808 := rfl
    lia
  simp [takeAnswer, prolong, beyond]

/-- The most that can be granted lies beyond what the clock can show. The renewal is confirmed,
and yet the loop is over, with a session that has not ended and that nobody will end. -/
theorem boundless_grant_leaves_session :
    let ran := (KeepAlive.begin 1 9000 0).runUntil 0 3000 generous
      [{ answer := .ok 9223372036854775807 }] {}
    renewalsAsked ran.2.2 = [3000] ∧ ran.1.hasFinished = true ∧ ran.1.done = false ∧
      ran.1.nextWake = none := by
  exact ⟨rfl, rfl, rfl, rfl⟩

end Rota.Election
