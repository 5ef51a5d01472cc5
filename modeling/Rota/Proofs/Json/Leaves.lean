import Mathlib.Data.List.TakeDrop
import Rota.Json.Printer
import Rota.Json.Reader

/-!
Numbers and strings in JSON texts. Main statements: what is written for an integer of 64 bits, with
or without a sign, or for a string reads back to it, and the reader stops right behind it.
-/

namespace Rota.Json

/-! Digits. -/

theorem digitOf?_digitChar {digit : Nat} (small : digit < 10) :
    Text.digitOf? digit.digitChar = some digit := by
  have all : ∀ digit < 10, Text.digitOf? digit.digitChar = some digit := by decide
  exact all digit small

/-- The digits of a number, the first of which is no zero unless it is the only one. -/
def Spells (digits : List Nat) (number : Nat) : Prop :=
  numberOf digits = number ∧ digits ≠ [] ∧ ∀ rest, digits = 0 :: rest → rest = []

theorem spells_toDigits (number : Nat) :
    Spells ((Nat.toDigits 10 number).filterMap Text.digitOf?) number := by
  induction number using Nat.base_induction 10 (by decide) with
  | single digit small =>
      rw [Nat.toDigits_of_lt_base small, List.filterMap_cons_some (digitOf?_digitChar small)]
      refine ⟨by simp [numberOf], by simp, ?_⟩
      rintro rest same
      exact (List.cons.inj same).2.symm
  | digit higher digit small positive ih =>
      rw [← Nat.toDigits_append_toDigits (by decide) positive small,
        Nat.toDigits_of_lt_base small, List.filterMap_append,
        List.filterMap_cons_some (digitOf?_digitChar small), List.filterMap_nil]
      generalize (Nat.toDigits 10 higher).filterMap Text.digitOf? = digits at ih
      obtain ⟨value, some, leading⟩ := ih
      refine ⟨?_, by simp, ?_⟩
      · rw [numberOf, List.foldl_append, ← numberOf, value]
        simp [Nat.mul_comm]
      · intro rest same
        obtain ⟨first, others, rfl⟩ := List.exists_cons_of_ne_nil some
        obtain ⟨rfl, _⟩ := List.cons.inj same
        -- A single zero would be the whole of the higher digits, which denote no zero.
        rw [leading others rfl] at value
        exact absurd value (Nat.ne_of_lt positive)

theorem exists_toDigits_cons (number : Nat) : ∃ first others,
    Nat.toDigits 10 number = first :: others ∧ first.isDigit = true := by
  obtain ⟨first, others, written⟩ :=
    List.exists_cons_of_ne_nil (Nat.toDigits_ne_nil (n := number) (b := 10))
  refine ⟨first, others, written, ?_⟩
  exact Nat.isDigit_of_mem_toDigits (by decide) (by decide) (written ▸ List.mem_cons_self)

/-- A text that does not go on with a number that stands before it. -/
def EndsNumber (text : List Char) : Prop :=
  ∀ character ∈ text.head?, character.isDigit = false ∧ character ≠ '.' ∧ character ≠ 'e' ∧
    character ≠ 'E'

theorem span_digits {digits rest : List Char}
    (all : ∀ character ∈ digits, character.isDigit = true) (ends : EndsNumber rest) :
    (digits ++ rest).span Char.isDigit = (digits, rest) := by
  rw [List.span_eq_takeWhile_dropWhile, List.takeWhile_append_of_pos all,
    List.dropWhile_append_of_pos all]
  cases rest with
  | nil => simp
  | cons character rest => simp [(ends character rfl).1]

theorem takeDigits_toDigits (number : Nat) {rest : List Char} (ends : EndsNumber rest) :
    takeDigits (Nat.toDigits 10 number ++ rest) =
      ((Nat.toDigits 10 number).filterMap Text.digitOf?, rest) := by
  have digits : ∀ character ∈ Nat.toDigits 10 number, character.isDigit = true :=
    fun _ member => Nat.isDigit_of_mem_toDigits (by decide) (by decide) member
  rw [takeDigits, span_digits digits ends]

theorem readWhole_toDigits (atEnd : Fault) (number : Nat) {rest : List Char}
    (ends : EndsNumber rest) : readWhole atEnd (Nat.toDigits 10 number ++ rest) =
      .ok ((Nat.toDigits 10 number).filterMap Text.digitOf?, rest) := by
  obtain ⟨_, some, leading⟩ := spells_toDigits number
  rw [readWhole, readDigits, takeDigits_toDigits number ends]
  generalize (Nat.toDigits 10 number).filterMap Text.digitOf? = digits at some leading
  match digits with
  | [] => exact absurd rfl some
  | [digit] => cases digit <;> rfl
  | 0 :: second :: others => exact absurd (leading _ rfl) (List.cons_ne_nil _ _)
  | (first + 1) :: second :: others => rfl

/-! Numbers. -/

theorem readWritten_unsigned {atEnd : Fault} {text rest : List Char} {whole : List Nat}
    (reads : readWhole atEnd text = .ok (whole, rest)) (ends : EndsNumber rest)
    (unsigned : ∀ others, text ≠ '-' :: others) : readWritten atEnd text =
      .ok ({ negative := false, whole, fraction := none, exponent := none }, rest) := by
  cases rest with
  | nil => simp [readWritten, reads, bind, Except.bind, pure, Except.pure]
  | cons character others =>
      obtain ⟨_, point, small, great⟩ := ends character rfl
      simp [readWritten, reads, point, small, great, bind, Except.bind, pure, Except.pure]

theorem readWritten_signed {atEnd : Fault} {text rest : List Char} {whole : List Nat}
    (reads : readWhole atEnd text = .ok (whole, rest)) (ends : EndsNumber rest) :
    readWritten atEnd ('-' :: text) =
      .ok ({ negative := true, whole, fraction := none, exponent := none }, rest) := by
  cases rest with
  | nil => simp [readWritten, reads, bind, Except.bind, pure, Except.pure]
  | cons character others =>
      obtain ⟨_, point, small, great⟩ := ends character rfl
      simp [readWritten, reads, point, small, great, bind, Except.bind, pure, Except.pure]

/-- A number of 64 bits, with or without a sign. -/
def IsWord (value : Int) : Prop := -Decimal.signedLimit ≤ value ∧ value < Decimal.wordLimit

theorem readNumber_integerText {value : Int} (word : IsWord value) {rest : List Char}
    (ends : EndsNumber rest) :
    readNumber (integerText value ++ rest) = .ok (integer value, rest) := by
  have reads (number : Nat) := readWhole_toDigits .truncated number ends
  have spelled (number : Nat) := (spells_toDigits number).1
  cases value with
  | ofNat number =>
      have unsigned (others : List Char) : Nat.toDigits 10 number ++ rest ≠ '-' :: others := by
        intro same
        obtain ⟨first, digits, written, digit⟩ := exists_toDigits_cons number
        rw [written] at same
        obtain rfl := (List.cons.inj same).1
        cases digit
      have fits : number < Decimal.wordLimit := Int.ofNat_lt.mp word.2
      simp [readNumber, integerText, readWritten_unsigned (reads number) ends unsigned,
        Written.value?, spelled, fits, bind, Except.bind, pure, Except.pure]
  | negSucc number =>
      have fits : number + 1 ≤ Decimal.signedLimit := by
        have least := word.1
        omega
      simp [readNumber, integerText, readWritten_signed (reads (number + 1)) ends,
        Written.value?, spelled, fits, Int.negSucc_eq, bind, Except.bind, pure, Except.pure]

/-! Strings. -/

theorem hexDigit?_hexDigit {digit : Nat} (small : digit < 16) :
    Text.hexDigit? (hexDigit digit) = some digit := by
  have all : ∀ digit < 16, Text.hexDigit? (hexDigit digit) = some digit := by decide
  exact all digit small

theorem readEscape_control {character : Char} (control : character.toNat < 32)
    (rest : List Char) : readEscape ('u' :: '0' :: '0' :: hexDigit (character.toNat / 16) ::
      hexDigit (character.toNat % 16) :: rest) = .ok (character, rest) := by
  have upper := hexDigit?_hexDigit (show character.toNat / 16 < 16 by omega)
  have lower := hexDigit?_hexDigit (show character.toNat % 16 < 16 by omega)
  have zero : Text.hexDigit? '0' = some 0 := rfl
  have code : character.toNat / 16 * 16 + character.toNat % 16 = character.toNat := by omega
  have low : ¬(0xDC00 ≤ character.toNat ∧ character.toNat ≤ 0xDFFF) := by omega
  have high : ¬(0xD800 ≤ character.toNat ∧ character.toNat ≤ 0xDBFF) := by omega
  simp [readEscape, readUnit, upper, lower, zero, code, low, high, bind, Except.bind, pure,
    Except.pure]

theorem readCharacters_escape (fuel : Nat) {character : Char} {text rest : List Char}
    (reads : readEscape text = .ok (character, rest)) :
    readCharacters readEscape (fuel + 1) ('\\' :: text) =
      (readCharacters readEscape fuel rest).map fun (characters, rest) =>
        (character :: characters, rest) := by
  simp only [readCharacters, reads, bind, Except.bind]
  cases readCharacters readEscape fuel rest with
  | error fault => rfl
  | ok read => rfl

/-- One character is read from what is written for it. -/
theorem readCharacters_escaped (fuel : Nat) (character : Char) (text : List Char) :
    readCharacters readEscape (fuel + 1) (escaped character ++ text) =
      (readCharacters readEscape fuel text).map fun (characters, rest) =>
        (character :: characters, rest) := by
  unfold escaped
  split
  · exact readCharacters_escape fuel rfl
  · exact readCharacters_escape fuel rfl
  · exact readCharacters_escape fuel rfl
  · exact readCharacters_escape fuel rfl
  · exact readCharacters_escape fuel rfl
  · rename_i quote backslash _ _ _
    have named {code : Nat} (same : character.toNat = code) : Char.ofNat code = character :=
      same ▸ Char.ofNat_toNat character
    simp only [beq_iff_eq]
    split
    · rename_i backspace
      exact readCharacters_escape fuel (named backspace ▸ rfl)
    · split
      · rename_i feed
        exact readCharacters_escape fuel (named feed ▸ rfl)
      · split
        · rename_i control
          exact readCharacters_escape fuel (readEscape_control control text)
        · rename_i visible
          rw [List.singleton_append, readCharacters]
          · rw [if_neg visible]
            cases readCharacters readEscape fuel text <;> rfl
          · exact quote
          · exact backslash

theorem readCharacters_flatMap {fuel : Nat} (characters : List Char)
    (enough : characters.length < fuel) (rest : List Char) :
    readCharacters readEscape fuel (characters.flatMap escaped ++ '"' :: rest) =
      .ok (characters, rest) := by
  induction characters generalizing fuel with
  | nil =>
      obtain ⟨fuel, rfl⟩ := Nat.exists_eq_add_one.mpr enough
      rfl
  | cons character characters ih =>
      obtain ⟨fuel, rfl⟩ := Nat.exists_eq_add_one.mpr (Nat.zero_lt_of_lt enough)
      rw [List.flatMap_cons, List.append_assoc, readCharacters_escaped,
        ih (Nat.lt_of_succ_lt_succ enough)]
      rfl

theorem length_flatMap_escaped (characters : List Char) :
    characters.length ≤ (characters.flatMap escaped).length := by
  induction characters with
  | nil => exact Nat.le_refl _
  | cons character characters ih =>
      have some : 0 < (escaped character).length := by
        unfold escaped
        grind
      rw [List.flatMap_cons, List.length_append, List.length_cons]
      omega

/-- What stands behind the opening quote of a string reads back to it. -/
theorem readString_quoted (text : String) (rest : List Char) : ∃ inside,
    quoted text ++ rest = '"' :: inside ∧ readString readEscape inside = .ok (text, rest) := by
  refine ⟨text.toList.flatMap escaped ++ '"' :: rest, by simp [quoted], ?_⟩
  have enough : text.toList.length < (text.toList.flatMap escaped ++ '"' :: rest).length + 1 := by
    have shorter := length_flatMap_escaped text.toList
    rw [List.length_append]
    omega
  simp only [readString, readCharacters_flatMap text.toList enough, bind, Except.bind, pure,
    Except.pure, String.ofList_toList]

end Rota.Json
