import Mathlib.Data.Nat.Fib.Basic
import Rota.Replica
import Rota.Task.Builtin

/-!
The built-in calculation of Fibonacci numbers. Main statement: it answers with the number itself
for as long as that fits into 64 bits and with nothing beyond, and the task takes one index below
2^32 and no other arguments.
-/

namespace Rota.Task

/-! What a task takes. -/

theorem acceptFrom_eq_ok_iff {size given : Nat} {parameters : List Parameter}
    {values : List Json} : acceptFrom size given parameters values = .ok () ↔
      List.Forall₂ (fun parameter value => parameter.accept value = .ok ()) parameters values := by
  induction parameters generalizing given values with
  | nil => cases values <;> simp [acceptFrom]
  | cons parameter parameters ih =>
      cases values with
      | nil => simp [acceptFrom]
      | cons value values =>
          simp only [acceptFrom, bind, Except.bind, List.forall₂_cons]
          cases parameter.accept value with
          | error fault => simp
          | ok => simp [ih]

theorem accept_unsigned_iff {bits : Nat} {value : Json} :
    (Parameter.unsigned bits).accept value = .ok () ↔
      ∃ number : Nat, value = .integer number ∧ number < Decimal.twoTo bits := by
  cases value with
  | integer value =>
      simp only [Parameter.accept, Parameter.bounds?]
      constructor
      · intro accepted
        split at accepted
        · rename_i inside
          simp only [Bool.and_eq_true, decide_eq_true_eq] at inside
          obtain ⟨number, rfl⟩ := Int.eq_ofNat_of_zero_le inside.1
          exact ⟨number, rfl, by exact_mod_cast inside.2⟩
        · cases accepted
      · rintro ⟨number, same, fits⟩
        cases same
        rw [if_pos]
        simpa using fits
  | _ => simp [Parameter.accept]

/-! The numbers. -/

/-- A pair of neighbours moves on to the neighbours of their sum. Once a number does not fit, no
later one does. -/
theorem fibonacciFrom_fib (index places : Nat)
    (fits : Nat.fib (index + 1) < Decimal.wordLimit) :
    fibonacciFrom (Nat.fib index) (Nat.fib (index + 1)) places =
      if Nat.fib (index + 1 + places) < Decimal.wordLimit then
        some (Nat.fib (index + 1 + places)) else none := by
  induction places generalizing index with
  | zero => rw [fibonacciFrom, Nat.add_zero, if_pos fits]
  | succ places ih =>
      have sum : Nat.fib index + Nat.fib (index + 1) = Nat.fib (index + 2) :=
        Nat.fib_add_two.symm
      have place : index + 1 + (places + 1) = index + 1 + 1 + places := by omega
      rw [fibonacciFrom, sum, place]
      by_cases next : Nat.fib (index + 2) < Decimal.wordLimit
      · rw [if_pos next]
        exact ih (index + 1) next
      · have grows : Nat.fib (index + 2) ≤ Nat.fib (index + 1 + 1 + places) :=
          Nat.fib_mono (Nat.le_add_right ..)
        rw [if_neg next, if_neg fun later => next (Nat.lt_of_le_of_lt grows later)]

theorem fibonacci?_eq_fib (index : Nat) : fibonacci? index =
    if Nat.fib index < Decimal.wordLimit then some (Nat.fib index) else none := by
  cases index with
  | zero => rfl
  | succ index =>
      have first : Nat.fib (0 + 1) < Decimal.wordLimit := by decide
      have from_first := fibonacciFrom_fib 0 index first
      rw [Nat.zero_add, Nat.add_comm 1 index] at from_first
      exact from_first

/-! The task. -/

/-- The list is one index, of 32 bits. -/
def IsIndex (values : List Json) (index : Nat) : Prop :=
  values = [.integer index] ∧ index < Decimal.twoTo 32

theorem accepts_index_iff {values : List Json} :
    calculateFibonacci.parameters.accept values = .ok () ↔ ∃ index, IsIndex values index := by
  simp only [calculateFibonacci, Parameters.accept, acceptFrom_eq_ok_iff, IsIndex]
  constructor
  · intro fits
    obtain ⟨value, rest, accepted, none, rfl⟩ := List.forall₂_cons_left_iff.mp fits
    obtain ⟨index, rfl, small⟩ := accept_unsigned_iff.mp accepted
    rw [List.forall₂_nil_left_iff.mp none]
    exact ⟨index, rfl, small⟩
  · rintro ⟨index, rfl, small⟩
    exact .cons (accept_unsigned_iff.mpr ⟨index, rfl, small⟩) .nil

theorem IsIndex.eq_iff {values : List Json} {index : Nat} (isIndex : IsIndex values index)
    (other : Nat) : IsIndex values other ↔ other = index := by
  constructor
  · intro isOther
    simpa using isOther.1.symm.trans isIndex.1
  · rintro rfl
    exact isIndex

theorem run_index (index : Nat) : calculateFibonacci.run [.integer index] =
    if Nat.fib index < Decimal.wordLimit then
      .note (.fibonacciFinished index (Nat.fib index)) .finish
    else .fail (.failed ("fib(" ++ toString index ++ ") overflows u64")) := by
  simp only [calculateFibonacci, Int.toNat_natCast, fibonacci?_eq_fib]
  by_cases fits : Nat.fib index < Decimal.wordLimit
  · simp only [if_pos fits]
  · simp only [if_neg fits]
    rfl

section

variable {replica : Replica} {values : List Json}
  (registered : replica.registry.find? fibonacciTask = some calculateFibonacci)

include registered

theorem invoke_index {index : Nat} (isIndex : IsIndex values index) :
    replica.invoke fibonacciTask values =
      if Nat.fib index < Decimal.wordLimit then
        (replica.note (.fibonacciFinished index (Nat.fib index)), some .completed)
      else (replica, some (.failed (.failed ("fib(" ++ toString index ++ ") overflows u64")))) := by
  have accepted := accepts_index_iff.mpr ⟨index, isIndex⟩
  simp only [Replica.invoke, Registry.invoke, registered, Handler.start, accepted]
  rw [isIndex.1, run_index, apply_ite replica.await]
  rfl

theorem invoke_refused (unfit : ¬∃ index, IsIndex values index) :
    ∃ fault, replica.invoke fibonacciTask values =
      (replica, some (.failed (.invalidArguments fibonacciTask fault))) := by
  simp only [Replica.invoke, Registry.invoke, registered, Handler.start]
  cases accepted : calculateFibonacci.parameters.accept values with
  | error fault => exact ⟨fault, rfl⟩
  | ok => exact absurd (accepts_index_iff.mp accepted) unfit

end

/-- The calculation answers with the number whose index was asked for, up to the last one below
2^64. The task notes that number and completes, fails beyond it, and refuses every list that is not
one index of 32 bits; where it does not complete, nothing is noted. -/
theorem calculation_exact_below_limit {replica : Replica}
    (registered : replica.registry.find? fibonacciTask = some calculateFibonacci) :
    (∀ index, fibonacci? index =
      if Nat.fib index < Decimal.wordLimit then some (Nat.fib index) else none) ∧
    ∀ values,
      ((replica.invoke fibonacciTask values).2 = some .completed ↔
        ∃ index, IsIndex values index ∧ Nat.fib index < Decimal.wordLimit) ∧
      ((∃ reason, (replica.invoke fibonacciTask values).2 = some (.failed (.failed reason))) ↔
        ∃ index, IsIndex values index ∧ Decimal.wordLimit ≤ Nat.fib index) ∧
      ((∃ fault, (replica.invoke fibonacciTask values).2 =
          some (.failed (.invalidArguments fibonacciTask fault))) ↔
        ∀ index, ¬IsIndex values index) ∧
      (∀ index, IsIndex values index → replica.invoke fibonacciTask values =
        if Nat.fib index < Decimal.wordLimit then
          (replica.note (.fibonacciFinished index (Nat.fib index)), some .completed)
        else
          (replica, some (.failed (.failed ("fib(" ++ toString index ++ ") overflows u64"))))) ∧
      ((∀ index, ¬IsIndex values index) → (replica.invoke fibonacciTask values).1 = replica) := by
  refine ⟨fibonacci?_eq_fib, fun values => ?_⟩
  by_cases fit : ∃ index, IsIndex values index
  · obtain ⟨index, isIndex⟩ := fit
    have invoked := invoke_index registered isIndex
    simp only [isIndex.eq_iff]
    by_cases fits : Nat.fib index < Decimal.wordLimit
    · simp only [if_pos fits] at invoked
      simp [invoked, fits]
    · simp only [if_neg fits] at invoked
      simp [invoked, fits, Nat.le_of_not_lt fits]
  · obtain ⟨fault, refused⟩ := invoke_refused registered fit
    have none : ∀ index, ¬IsIndex values index := not_exists.mp fit
    simp [refused, none]

/-- The number at 93 is the last that fits. -/
theorem calculation_ends_at_ninety_three :
    let replica : Replica := { registry := .builtin }
    replica.registry.find? fibonacciTask = some calculateFibonacci ∧
      replica.invoke fibonacciTask [.integer 93] =
        (replica.note (.fibonacciFinished 93 12200160415121876738), some .completed) ∧
      (∃ reason, (replica.invoke fibonacciTask [.integer 94]).2 =
        some (.failed (.failed reason))) ∧
      ∀ value : Decimal.Binary64, ∃ fault, (replica.invoke fibonacciTask [.double value]).2 =
        some (.failed (.invalidArguments fibonacciTask fault)) := by
  intro replica
  have registered : replica.registry.find? fibonacciTask = some calculateFibonacci := rfl
  obtain ⟨_, exact⟩ := calculation_exact_below_limit registered
  have last : IsIndex [.integer 93] 93 := ⟨rfl, by decide⟩
  have next : IsIndex [.integer 94] 94 := ⟨rfl, by decide⟩
  refine ⟨registered, ?_, ?_, fun value => ?_⟩
  · rw [(exact [.integer 93]).2.2.2.1 93 last, if_pos (by decide +kernel)]
    rfl
  · exact (exact [.integer 94]).2.1.mpr ⟨94, next, by decide +kernel⟩
  · refine (exact [.double value]).2.2.1.mpr ?_
    rintro index ⟨same, _⟩
    cases same

end Rota.Task
