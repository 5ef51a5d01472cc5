import Rota.Proofs.Resource.Conformance
import Rota.Proofs.Run

/-!
Guards that are put together step by step. Main statement: what they answer depends on nothing but
the demo configuration and the read-only flag that were given last, however many steps there were
and in whatever order.
-/

namespace Rota.Resource.Guard

inductive Adjustment where
  | readOnly (flag : Bool)
  | demo (demo : Demo)

def Adjustment.demo? : Adjustment → Option Demo
  | readOnly _ => none
  | demo given => some given

def Adjustment.flag? : Adjustment → Option Bool
  | readOnly flag => some flag
  | demo _ => none

def adjust (guard : Guard) : Adjustment → Guard
  | .readOnly flag => guard.withReadOnly flag
  | .demo demo => guard.withDemo demo

@[simp] theorem adjust_demo (guard : Guard) (adjustment : Adjustment) :
    (guard.adjust adjustment).demo = adjustment.demo?.elim guard.demo activeDemo := by
  cases adjustment <;> rfl

@[simp] theorem adjust_readOnly (guard : Guard) (adjustment : Adjustment) :
    (guard.adjust adjustment).readOnly = adjustment.flag?.elim guard.readOnly id := by
  cases adjustment <;> rfl

def build (adjustments : List Adjustment) : Guard := adjustments.foldl adjust permissive

/-! What was given last. -/

section

variable {α β : Type} (given? : Adjustment → Option α) (fallback : α → Prop)
  {adjustments : List Adjustment} {value : α}

/-- The value that was given last, or a fallback if none was. -/
def LastGiven (adjustments : List Adjustment) (value : α) : Prop :=
  Since (given? · = some value) (given? · = none) adjustments ∨
    (∀ adjustment ∈ adjustments, given? adjustment = none) ∧ fallback value

variable {given? fallback}

theorem lastGiven_append {last : Adjustment} :
    LastGiven given? fallback (adjustments ++ [last]) value ↔
      given? last = some value ∨
        given? last = none ∧ LastGiven given? fallback adjustments value := by
  simp only [LastGiven, since_append, List.forall_mem_append, List.forall_mem_singleton]
  tauto

theorem exists_lastGiven (fallsBack : ∃ value, fallback value) (adjustments : List Adjustment) :
    ∃ last, LastGiven given? fallback adjustments last := by
  induction adjustments using List.reverseRecOn with
  | nil =>
      obtain ⟨value, unset⟩ := fallsBack
      exact ⟨value, .inr ⟨by simp, unset⟩⟩
  | append_singleton adjustments last ih =>
      simp only [lastGiven_append]
      cases given : given? last with
      | some value => exact ⟨value, .inl rfl⟩
      | none =>
          obtain ⟨value, lastGiven⟩ := ih
          exact ⟨value, .inr ⟨rfl, lastGiven⟩⟩

/-- Where each step that gives a value sets a part of the guard, and all others leave it, the last
value is what the part is set to. -/
theorem read_build {read : Guard → β} {store : α → β}
    (step : ∀ guard adjustment,
      read (guard.adjust adjustment) = (given? adjustment).elim (read guard) store)
    (start : ∀ value, fallback value → read permissive = store value)
    (last : LastGiven given? fallback adjustments value) :
    read (build adjustments) = store value := by
  induction adjustments using List.reverseRecOn with
  | nil =>
      rcases last with ⟨before, adjustment, after, split, _⟩ | ⟨_, fallsBack⟩
      · simp at split
      · exact start value fallsBack
  | append_singleton adjustments final ih =>
      rw [build, List.foldl_append, List.foldl_cons, List.foldl_nil, step]
      rcases lastGiven_append.mp last with given | ⟨given, earlier⟩
      · rw [given]
        rfl
      · rw [given]
        exact ih earlier

end

/-- A demo configuration that is disabled stands for none. -/
def LastDemo : List Adjustment → Demo → Prop := LastGiven Adjustment.demo? (·.enabled = false)

def LastReadOnly : List Adjustment → Bool → Prop := LastGiven Adjustment.flag? (· = false)

theorem build_eq_ofSettings {adjustments : List Adjustment} {demo : Demo} {flag : Bool}
    (lastDemo : LastDemo adjustments demo) (lastFlag : LastReadOnly adjustments flag) :
    build adjustments = ofSettings demo flag := by
  have unprotected (demo : Demo) (disabled : demo.enabled = false) :
      permissive.demo = activeDemo demo := by simp [permissive, activeDemo, disabled]
  have attached : (build adjustments).demo = activeDemo demo :=
    read_build adjust_demo unprotected lastDemo
  have frozen : (build adjustments).readOnly = flag :=
    read_build adjust_readOnly (fun _ unset => unset.symm) lastFlag
  rw [ofSettings, ← attached, ← frozen]

/-! What a guard answers. -/

theorem check_ofSettings (demo : Demo) (flag : Bool) (resource : Snapshot) :
    (ofSettings demo flag).check resource =
      if demo.enabled = true ∧ resource.id ∈ demo.protectedIds then
        .error (.demoProtected resource.id demo.warning)
      else if flag = true then .error .readOnly else .ok () := by
  split
  · rename_i listed
    have attached : activeDemo demo = some demo := if_pos listed.1
    exact check_of_shields ⟨attached, listed⟩
  · rename_i unlisted
    refine check_of_not_shields fun other shields => unlisted ?_
    obtain ⟨attached, listed⟩ := shields
    obtain ⟨_, same⟩ := Option.ite_none_right_eq_some.mp attached
    exact Option.some.inj same ▸ listed

/-- A guard answers as the one that is made at once of the demo configuration and the read-only
flag given last. The resource is protected, with the warning of that configuration, exactly if it
is enabled and lists the resource; otherwise the flag decides. Whatever else was given before has
left nothing behind. -/
theorem check_independent_of_construction (adjustments : List Adjustment) :
    (∃ demo, LastDemo adjustments demo) ∧ (∃ flag, LastReadOnly adjustments flag) ∧
    ∀ demo flag, LastDemo adjustments demo → LastReadOnly adjustments flag →
      (∀ resource, (build adjustments).check resource = (ofSettings demo flag).check resource) ∧
      (∀ resource, (build adjustments).check resource =
        if demo.enabled = true ∧ resource.id ∈ demo.protectedIds then
          .error (.demoProtected resource.id demo.warning)
        else if flag = true then .error .readOnly else .ok ()) ∧
      ∀ others, LastDemo others demo → LastReadOnly others flag →
        ∀ resource, (build others).check resource = (build adjustments).check resource := by
  have disabled : ∃ demo : Demo, demo.enabled = false := ⟨{}, rfl⟩
  have unset : ∃ flag : Bool, flag = false := ⟨false, rfl⟩
  refine ⟨exists_lastGiven disabled adjustments, exists_lastGiven unset adjustments, ?_⟩
  intro demo flag lastDemo lastFlag
  have built := build_eq_ofSettings lastDemo lastFlag
  refine ⟨fun resource => by rw [built], fun resource => ?_, ?_⟩
  · rw [built, check_ofSettings]
  · intro others otherDemo otherFlag resource
    rw [built, build_eq_ofSettings otherDemo otherFlag]

/-- The first configuration protects the resource only until a disabled one is given. -/
theorem cleared_guard_checks :
    let demo : Demo := { enabled := true, warning := "hands off", protectedIds := ["route"] }
    let given : List Adjustment :=
      [.readOnly true, .demo demo, .readOnly false, .demo { demo with enabled := false }]
    let route : Snapshot := { id := "route", status := .published }
    LastDemo given { demo with enabled := false } ∧ LastReadOnly given false ∧
      (build given).check route = .ok () ∧
      LastDemo (given.take 2) demo ∧ LastReadOnly (given.take 2) true ∧
      (build (given.take 2)).check route = .error (.demoProtected "route" "hands off") ∧
      (build (given.take 2)).check { route with id := "service" } = .error .readOnly := by
  intro demo given route
  have lastDemo : LastDemo given { demo with enabled := false } :=
    .inl ⟨given.take 3, _, [], rfl, rfl, by simp⟩
  have lastFlag : LastReadOnly given false :=
    .inl ⟨given.take 2, _, given.drop 3, rfl, rfl, by simp [given, Adjustment.flag?]⟩
  have earlierDemo : LastDemo (given.take 2) demo := .inl ⟨[.readOnly true], _, [], rfl, rfl, by simp⟩
  have earlierFlag : LastReadOnly (given.take 2) true :=
    .inl ⟨[], _, [.demo demo], rfl, rfl, by simp [Adjustment.flag?]⟩
  obtain ⟨_, _, answers⟩ := check_independent_of_construction given
  obtain ⟨_, _, earlier⟩ := check_independent_of_construction (given.take 2)
  obtain ⟨_, protection, _⟩ := earlier demo true earlierDemo earlierFlag
  exact ⟨lastDemo, lastFlag, (answers _ _ lastDemo lastFlag).2.1 route, earlierDemo, earlierFlag,
    protection route, protection { route with id := "service" }⟩

end Rota.Resource.Guard
