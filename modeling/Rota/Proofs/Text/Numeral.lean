import Mathlib.Data.List.Basic
import Rota.Text.Numeral

/-!
Unsigned numerals below a bound. Main statement: reading accepts the digits of the numbers below
the bound, with any leading zeros and at most one plus sign before them, and nothing else.
-/

namespace Rota.Text

theorem digitOf?_eq_some_iff {character : Char} {digit : Nat} : digitOf? character = some digit ↔
    character.isDigit = true ∧ character.toNat - '0'.toNat = digit := by
  simp [digitOf?, Char.isDigit, Char.le_def, UInt32.le_iff_toNat_le]

theorem le_ofDigitChars (number : Nat) (digits : List Char) :
    number ≤ Nat.ofDigitChars 10 digits number := by
  induction digits generalizing number with
  | nil => exact Nat.le_refl number
  | cons digit digits ih =>
      calc number ≤ 10 * number + (digit.toNat - '0'.toNat) := by omega
        _ ≤ Nat.ofDigitChars 10 (digit :: digits) number := ih _

theorem appendDigits_eq_ok_iff {bound number result : Nat} {digits : List Char}
    (small : number < bound) : appendDigits bound number digits = .ok result ↔
      (∀ digit ∈ digits, digit.isDigit = true) ∧
        Nat.ofDigitChars 10 digits number = result ∧ result < bound := by
  induction digits generalizing number with
  | nil =>
      simp only [appendDigits, Except.ok.injEq, Nat.ofDigitChars_nil, List.not_mem_nil,
        false_implies, implies_true, true_and]
      constructor
      · rintro rfl
        exact ⟨rfl, small⟩
      · exact And.left
  | cons character digits ih =>
      rw [appendDigits, List.forall_mem_cons, Nat.ofDigitChars_cons, Nat.mul_comm 10]
      cases read : digitOf? character with
      | none =>
          have stray : character.isDigit ≠ true := fun isDigit => by
            rw [digitOf?_eq_some_iff.mpr ⟨isDigit, rfl⟩] at read
            cases read
          simp [stray]
      | some digit =>
          obtain ⟨isDigit, rfl⟩ := digitOf?_eq_some_iff.mp read
          dsimp only
          split
          · rename_i fits
            rw [ih fits]
            simp [isDigit]
          · -- A number that has reached the bound stays there, whatever digits follow.
            rename_i beyond
            have grows := le_ofDigitChars (number * 10 + (character.toNat - '0'.toNat)) digits
            constructor
            · intro read
              cases read
            · rintro ⟨_, rfl, below⟩
              exact absurd (Nat.lt_of_le_of_lt grows below) beyond

/-- One or more decimal digits, perhaps behind a plus sign, that denote the number. -/
def Denotes (text : List Char) (number : Nat) : Prop :=
  ∃ digits, (text = digits ∨ text = '+' :: digits) ∧ digits ≠ [] ∧
    (∀ digit ∈ digits, digit.isDigit = true) ∧ Nat.ofDigitChars 10 digits 0 = number

theorem natural?_eq_some_iff {bound number : Nat} {text : List Char} (positive : 0 < bound) :
    natural? bound text = some number ↔ Denotes text number ∧ number < bound := by
  have reads {digits : List Char} : (appendDigits bound 0 digits).toOption = some number ↔
      (∀ digit ∈ digits, digit.isDigit = true) ∧
        Nat.ofDigitChars 10 digits 0 = number ∧ number < bound := by
    rw [← appendDigits_eq_ok_iff positive]
    cases appendDigits bound 0 digits <;> simp [Except.toOption]
  unfold natural? readNatural
  split
  · simp [Except.toOption, Denotes]
  · simp [Except.toOption, Denotes]
  · rename_i digits lone
    constructor
    · intro read
      obtain ⟨all, value, below⟩ := reads.mp read
      exact ⟨⟨digits, .inr rfl, fun none => lone none, all, value⟩, below⟩
    · rintro ⟨⟨others, rfl | signed, _, all, value⟩, below⟩
      · exact absurd (all '+' List.mem_cons_self) (by decide)
      · obtain rfl := (List.cons.inj signed).2
        exact reads.mpr ⟨all, value, below⟩
  · rename_i some _ unsigned
    constructor
    · intro read
      obtain ⟨all, value, below⟩ := reads.mp read
      exact ⟨⟨text, .inl rfl, some, all, value⟩, below⟩
    · rintro ⟨⟨digits, rfl | signed, _, all, value⟩, below⟩
      · exact reads.mpr ⟨all, value, below⟩
      · exact absurd signed (unsigned digits)

end Rota.Text
