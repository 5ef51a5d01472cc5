import Rota.Resource.Lifecycle

/-!
Lifecycles follow the specification of statuses over whole runs. A run mixes questions,
operations and changes of the guard; the specification is a machine of its own, given by the
rows of its table and by the order in which the causes of a refusal are asked.

Main statement: `Lifecycle.follows_specification`.
-/

namespace Rota.Resource

/-- The rows of the specification's table, one for each source it lists. Updates of drafts that
are not deleted stay where they are, and have no row. -/
inductive Listed : Status → Operation → Status → Prop where
  | create : Listed .absent .create .createDraft
  | delete : Listed .published .delete .deleteDraft
  | discard : Listed .createDraft .delete .absent
  | update : Listed .published .update .updateDraft
  | revertUpdate : Listed .updateDraft .revert .published
  | revertDelete : Listed .deleteDraft .revert .published
  | publishUpdate : Listed .updateDraft .publish .published
  | publishCreate : Listed .createDraft .publish .published
  | publishDelete : Listed .deleteDraft .publish .published

theorem listed_iff (origin : Status) (operation : Operation) (target : Status) :
    Listed origin operation target ↔ target? origin operation = some target := by
  constructor
  · intro listed
    cases listed <;> rfl
  · cases origin <;> cases operation <;> simp [target?, transitions] <;> rintro rfl <;> constructor

/-- The operation leaves a draft as it is, so that no transition is made. -/
def IsUnchanged (current : Status) (operation : Operation) : Prop :=
  operation = .update ∧ (current = .createDraft ∨ current = .updateDraft)

instance (current : Status) (operation : Operation) : Decidable (IsUnchanged current operation) :=
  inferInstanceAs (Decidable (_ ∧ _))

namespace Guard

def Shields (guard : Guard) (demo : Demo) (resource : String) : Prop :=
  guard.demo = some demo ∧ demo.enabled = true ∧ resource ∈ demo.protectedIds

theorem check_of_shields {guard : Guard} {demo : Demo} {resource : Snapshot}
    (shielded : guard.Shields demo resource.id) :
    guard.check resource = .error (.demoProtected resource.id demo.warning) := by
  obtain ⟨attached, enabled, listed⟩ := shielded
  simp [check, attached, Demo.protects, enabled, listed, Option.filter]

theorem check_of_not_shields {guard : Guard} {resource : Snapshot}
    (free : ∀ demo, ¬ guard.Shields demo resource.id) :
    guard.check resource = if guard.readOnly then .error .readOnly else .ok () := by
  have unprotected : guard.demo.filter (·.protects resource.id) = none := by
    rw [Option.filter_eq_none_iff]
    intro demo attached protects
    simp only [Demo.protects, Bool.and_eq_true, List.contains_eq_mem, decide_eq_true_eq] at protects
    exact free demo ⟨attached, protects.1, protects.2⟩
  simp [check, unprotected]

end Guard

/-- What the specification answers to an operation. Demo protection is asked of the snapshot's
id, then read-only mode, then the update of a draft, and the table of the cursor last. -/
inductive Ruling (resource : Snapshot) (guard : Guard) (current : Status)
    (operation : Operation) : Except StatusError Status → Prop where
  | shielded (demo : Demo) (shields : guard.Shields demo resource.id) :
      Ruling resource guard current operation (.error (.demoProtected resource.id demo.warning))
  | readOnly (free : ∀ demo, ¬ guard.Shields demo resource.id) (frozen : guard.readOnly = true) :
      Ruling resource guard current operation (.error .readOnly)
  | unchanged (free : ∀ demo, ¬ guard.Shields demo resource.id)
      (writable : guard.readOnly = false) (stays : IsUnchanged current operation) :
      Ruling resource guard current operation (.ok current)
  | listed (target : Status) (free : ∀ demo, ¬ guard.Shields demo resource.id)
      (writable : guard.readOnly = false) (moves : ¬ IsUnchanged current operation)
      (row : Listed current operation target) :
      Ruling resource guard current operation (.ok target)
  | unlisted (free : ∀ demo, ¬ guard.Shields demo resource.id)
      (writable : guard.readOnly = false) (moves : ¬ IsUnchanged current operation)
      (missing : ∀ target, ¬ Listed current operation target) :
      Ruling resource guard current operation (.error (.illegalTransition current operation))

namespace Lifecycle

theorem resolve_of_shields {lifecycle : Lifecycle} {demo : Demo} (operation : Operation)
    (shields : lifecycle.guard.Shields demo lifecycle.resource.id) :
    lifecycle.resolve operation = .error (.demoProtected lifecycle.resource.id demo.warning) := by
  simp [resolve, Guard.check_of_shields shields, bind, Except.bind]

theorem resolve_of_not_shields {lifecycle : Lifecycle} (operation : Operation)
    (free : ∀ demo, ¬ lifecycle.guard.Shields demo lifecycle.resource.id) :
    lifecycle.resolve operation =
      if lifecycle.guard.readOnly then .error .readOnly
      else if IsUnchanged lifecycle.current operation then .ok lifecycle.current
      else match target? lifecycle.current operation with
        | some target => .ok target
        | none => .error (.illegalTransition lifecycle.current operation) := by
  simp only [resolve, Guard.check_of_not_shields free, IsUnchanged]
  cases lifecycle.guard.readOnly
  · simp [bind, Except.bind, pure, Except.pure, throw, throwThe, MonadExceptOf.throw]
    rfl
  · rfl

theorem resolve_ruling (lifecycle : Lifecycle) (operation : Operation) :
    Ruling lifecycle.resource lifecycle.guard lifecycle.current operation
      (lifecycle.resolve operation) := by
  by_cases shielded : ∃ demo, lifecycle.guard.Shields demo lifecycle.resource.id
  · obtain ⟨demo, shields⟩ := shielded
    rw [resolve_of_shields operation shields]
    exact .shielded demo shields
  have free := not_exists.mp shielded
  rw [resolve_of_not_shields operation free]
  split
  · rename_i frozen
    exact .readOnly free frozen
  rename_i writable
  replace writable := Bool.not_eq_true _ ▸ writable
  split
  · rename_i stays
    exact .unchanged free writable stays
  rename_i moves
  split
  · rename_i target found
    exact .listed target free writable moves ((listed_iff ..).mpr found)
  · rename_i missing
    refine .unlisted free writable moves fun target row => ?_
    rw [(listed_iff ..).mp row] at missing
    cases missing

/-- The specification leaves no choice, so that its answer is the one that is given. -/
theorem ruling_iff (lifecycle : Lifecycle) (operation : Operation)
    (answer : Except StatusError Status) :
    Ruling lifecycle.resource lifecycle.guard lifecycle.current operation answer ↔
      lifecycle.resolve operation = answer := by
  constructor
  · intro ruling
    cases ruling with
    | shielded demo shields => exact resolve_of_shields operation shields
    | readOnly free frozen => simp [resolve_of_not_shields operation free, frozen]
    | unchanged free writable stays => simp [resolve_of_not_shields operation free, writable, stays]
    | listed target free writable moves row =>
      simp [resolve_of_not_shields operation free, writable, moves, (listed_iff ..).mp row]
    | unlisted free writable moves missing =>
      have absent : target? lifecycle.current operation = none :=
        Option.eq_none_iff_forall_ne_some.mpr fun target found =>
          missing target ((listed_iff ..).mpr found)
      simp [resolve_of_not_shields operation free, writable, moves, absent]
  · rintro rfl
    exact lifecycle.resolve_ruling operation

end Lifecycle

inductive Call where
  | canDo (operation : Operation)
  | nextStatus (operation : Operation)
  | replaceGuard (guard : Guard)

inductive Answer where
  | judged (answer : Except StatusError Unit)
  | moved (answer : Except StatusError Status)
  | replaced

/-- One call to the specification's machine, whose state is a cursor and the guard in force. -/
inductive Responds (resource : Snapshot) : Status × Guard → Call → Answer → Status × Guard → Prop
    where
  | allowed {current : Status} {guard : Guard} {operation : Operation} {target : Status}
      (ruling : Ruling resource guard current operation (.ok target)) :
      Responds resource (current, guard) (.canDo operation) (.judged (.ok ())) (current, guard)
  | denied {current : Status} {guard : Guard} {operation : Operation} {error : StatusError}
      (ruling : Ruling resource guard current operation (.error error)) :
      Responds resource (current, guard) (.canDo operation) (.judged (.error error))
        (current, guard)
  | accepted {current : Status} {guard : Guard} {operation : Operation} {target : Status}
      (ruling : Ruling resource guard current operation (.ok target)) :
      Responds resource (current, guard) (.nextStatus operation) (.moved (.ok target))
        (target, guard)
  | rejected {current : Status} {guard : Guard} {operation : Operation} {error : StatusError}
      (ruling : Ruling resource guard current operation (.error error)) :
      Responds resource (current, guard) (.nextStatus operation) (.moved (.error error))
        (current, guard)
  | replaced {current : Status} {guard : Guard} (other : Guard) :
      Responds resource (current, guard) (.replaceGuard other) .replaced (current, other)

/-- A run of the specification's machine, with the calls and their answers in order. -/
inductive Conforms (resource : Snapshot) :
    Status × Guard → List Call → List Answer → Status × Guard → Prop where
  | done (state : Status × Guard) : Conforms resource state [] [] state
  | next {state middle last : Status × Guard} {call : Call} {answer : Answer} {calls : List Call}
      {answers : List Answer} (responds : Responds resource state call answer middle)
      (conforms : Conforms resource middle calls answers last) :
      Conforms resource state (call :: calls) (answer :: answers) last

/-- The cursor's way through the statuses, one accepted operation after the other. -/
inductive Travels : Status → List Operation → Status → Prop where
  | stay (current : Status) : Travels current [] current
  | keep {current last : Status} {operation : Operation} {operations : List Operation}
      (stays : IsUnchanged current operation) (travels : Travels current operations last) :
      Travels current (operation :: operations) last
  | move {current target last : Status} {operation : Operation} {operations : List Operation}
      (row : Listed current operation target) (travels : Travels target operations last) :
      Travels current (operation :: operations) last

/-- The operations that moved the cursor: those of `nextStatus` that were accepted. -/
def accepted : List Call → List Answer → List Operation
  | .nextStatus operation :: calls, .moved (.ok _) :: answers =>
    operation :: accepted calls answers
  | _ :: calls, _ :: answers => accepted calls answers
  | _, _ => []

namespace Lifecycle

def perform (lifecycle : Lifecycle) : Call → Answer × Lifecycle
  | .canDo operation => (.judged (lifecycle.canDo operation), lifecycle)
  | .nextStatus operation =>
    let (answer, next) := lifecycle.nextStatus operation
    (.moved answer, next)
  | .replaceGuard guard => (.replaced, lifecycle.withGuard guard)

def follow (lifecycle : Lifecycle) : List Call → List Answer × Lifecycle
  | [] => ([], lifecycle)
  | call :: calls =>
    let (answer, next) := lifecycle.perform call
    let (answers, last) := next.follow calls
    (answer :: answers, last)

def state (lifecycle : Lifecycle) : Status × Guard := (lifecycle.current, lifecycle.guard)

theorem nextStatus_fst (lifecycle : Lifecycle) (operation : Operation) :
    (lifecycle.nextStatus operation).1 = lifecycle.resolve operation := by
  unfold nextStatus
  cases lifecycle.resolve operation <;> rfl

theorem canDo_eq_ok_iff (lifecycle : Lifecycle) (operation : Operation) :
    lifecycle.canDo operation = .ok () ↔
      ∃ target, (lifecycle.nextStatus operation).1 = .ok target := by
  rw [canDo, nextStatus_fst]
  cases lifecycle.resolve operation <;> simp [Except.map]

theorem canDo_eq_error_iff (lifecycle : Lifecycle) (operation : Operation) (error : StatusError) :
    lifecycle.canDo operation = .error error ↔
      (lifecycle.nextStatus operation).1 = .error error := by
  rw [canDo, nextStatus_fst]
  cases lifecycle.resolve operation <;> simp [Except.map]

theorem nextStatus_of_error {lifecycle : Lifecycle} {operation : Operation} {error : StatusError}
    (refused : (lifecycle.nextStatus operation).1 = .error error) :
    (lifecycle.nextStatus operation).2 = lifecycle := by
  unfold nextStatus at refused ⊢
  split at refused
  · cases refused
  · rfl

@[simp] theorem perform_resource (lifecycle : Lifecycle) (call : Call) :
    (lifecycle.perform call).2.resource = lifecycle.resource := by
  cases call with
  | canDo operation => rfl
  | nextStatus operation =>
    simp only [perform, nextStatus]
    split <;> rfl
  | replaceGuard guard => rfl

theorem perform_responds_iff (lifecycle : Lifecycle) (call : Call) (answer : Answer)
    (next : Status × Guard) :
    Responds lifecycle.resource lifecycle.state call answer next ↔
      answer = (lifecycle.perform call).1 ∧ next = (lifecycle.perform call).2.state := by
  constructor
  · intro responds
    cases responds with
    | allowed ruling | denied ruling =>
      have resolved := (lifecycle.ruling_iff ..).mp ruling
      simp [perform, canDo, resolved, Except.map, state]
    | accepted ruling | rejected ruling =>
      have resolved := (lifecycle.ruling_iff ..).mp ruling
      simp [perform, nextStatus, resolved, state]
    | replaced other => exact ⟨rfl, rfl⟩
  · rintro ⟨rfl, rfl⟩
    cases call with
    | replaceGuard guard => exact .replaced guard
    | canDo operation =>
      have ruling := lifecycle.resolve_ruling operation
      cases resolved : lifecycle.resolve operation <;> rw [resolved] at ruling <;>
        simp only [perform, canDo, resolved]
      · exact .denied ruling
      · exact .allowed ruling
    | nextStatus operation =>
      have ruling := lifecycle.resolve_ruling operation
      cases resolved : lifecycle.resolve operation <;> rw [resolved] at ruling <;>
        simp only [perform, nextStatus, resolved]
      · exact .rejected ruling
      · exact .accepted ruling

theorem follow_resource (lifecycle : Lifecycle) (calls : List Call) :
    (lifecycle.follow calls).2.resource = lifecycle.resource := by
  induction calls generalizing lifecycle with
  | nil => rfl
  | cons call calls ih => rw [follow, ih, perform_resource]

/-- A whole run is answered as the specification answers it, and in no other way. -/
theorem follow_conforms_iff (lifecycle : Lifecycle) (calls : List Call) (answers : List Answer)
    (last : Status × Guard) :
    Conforms lifecycle.resource lifecycle.state calls answers last ↔
      answers = (lifecycle.follow calls).1 ∧ last = (lifecycle.follow calls).2.state := by
  induction calls generalizing lifecycle answers with
  | nil =>
    constructor
    · rintro ⟨⟩
      exact ⟨rfl, rfl⟩
    · rintro ⟨rfl, rfl⟩
      exact .done _
  | cons call calls ih =>
    -- The rest of the run starts from another cursor, but judges the same snapshot.
    have ih := ih (lifecycle.perform call).2
    rw [perform_resource] at ih
    constructor
    · rintro (_ | ⟨responds, conforms⟩)
      obtain ⟨rfl, rfl⟩ := (lifecycle.perform_responds_iff ..).mp responds
      obtain ⟨rfl, rfl⟩ := (ih ..).mp conforms
      exact ⟨rfl, rfl⟩
    · rintro ⟨rfl, rfl⟩
      exact .next ((lifecycle.perform_responds_iff ..).mpr ⟨rfl, rfl⟩) ((ih ..).mpr ⟨rfl, rfl⟩)

end Lifecycle

theorem Ruling.leads {resource : Snapshot} {guard : Guard} {current target : Status}
    {operation : Operation} (ruling : Ruling resource guard current operation (.ok target)) :
    (IsUnchanged current operation ∧ target = current) ∨ Listed current operation target := by
  cases ruling with
  | unchanged free writable stays => exact .inl ⟨stays, rfl⟩
  | listed target free writable moves row => exact .inr row

theorem Conforms.travels {resource : Snapshot} {state last : Status × Guard} {calls : List Call}
    {answers : List Answer} (conforms : Conforms resource state calls answers last) :
    Travels state.1 (accepted calls answers) last.1 := by
  induction conforms with
  | done state => exact .stay _
  | next responds conforms ih =>
    cases responds with
    | allowed ruling | denied ruling | rejected ruling | replaced other => exact ih
    | accepted ruling =>
      rcases ruling.leads with ⟨stays, rfl⟩ | row
      · exact .keep stays ih
      · exact .move row ih

theorem Listed.unique {origin target other : Status} {operation : Operation}
    (row : Listed origin operation target) (listed : Listed origin operation other) :
    target = other := by
  rw [listed_iff] at row listed
  exact Option.some.inj (row.symm.trans listed)

theorem Listed.not_unchanged {origin target : Status} {operation : Operation}
    (row : Listed origin operation target) : ¬ IsUnchanged origin operation := by
  cases row <;> decide

theorem Travels.unique {current last other : Status} {operations : List Operation}
    (travels : Travels current operations last) (ends : Travels current operations other) :
    last = other := by
  induction travels with
  | stay current =>
    cases ends
    rfl
  | keep stays _ ih =>
    cases ends with
    | keep _ rest => exact ih rest
    | move row _ => exact absurd stays row.not_unchanged
  | move row _ ih =>
    cases ends with
    | keep stays _ => exact absurd stays row.not_unchanged
    | move listed rest => exact ih (row.unique listed ▸ rest)

namespace Lifecycle

/-- For every snapshot, every guard and every run of calls: the answers and the state after them
are those of the specification's machine, which has no others; the cursor is where the accepted
operations lead; the snapshot is the one given. In whatever state a run ends, an operation is
answered by the specification's ruling on the snapshot's id and the cursor, the question whether
it is allowed has the answer that it would have, and a refused operation changes nothing. -/
theorem follows_specification (resource : Snapshot) (guard : Guard) (calls : List Call) :
    let start := (ofSnapshot resource).withGuard guard
    let answers := (start.follow calls).1
    let last := (start.follow calls).2
    (∀ others state, Conforms resource (resource.status, guard) calls others state ↔
        others = answers ∧ state = (last.current, last.guard)) ∧
      (∀ cursor, Travels resource.status (accepted calls answers) cursor ↔
        cursor = last.current) ∧
      last.resource = resource ∧
      ∀ operation,
        (∀ answer, Ruling resource last.guard last.current operation answer ↔
          (last.nextStatus operation).1 = answer) ∧
        (last.canDo operation = .ok () ↔ ∃ target, (last.nextStatus operation).1 = .ok target) ∧
        (∀ error, last.canDo operation = .error error ↔
          (last.nextStatus operation).1 = .error error) ∧
        (last.perform (.canDo operation)).2 = last ∧
        (∀ error, (last.nextStatus operation).1 = .error error →
          (last.nextStatus operation).2 = last) := by
  intro start answers last
  have conforms := start.follow_conforms_iff calls
  have kept : last.resource = resource := start.follow_resource calls
  have travels : Travels resource.status (accepted calls answers) last.current :=
    ((conforms answers last.state).mpr ⟨rfl, rfl⟩).travels
  refine ⟨conforms, fun cursor => ⟨fun ends => ends.unique travels, ?_⟩, kept, fun operation => ?_⟩
  · rintro rfl
    exact travels
  · refine ⟨fun answer => ?_, last.canDo_eq_ok_iff operation, last.canDo_eq_error_iff operation,
      rfl, fun error => nextStatus_of_error⟩
    rw [nextStatus_fst, ← last.ruling_iff, kept]

end Lifecycle

end Rota.Resource
