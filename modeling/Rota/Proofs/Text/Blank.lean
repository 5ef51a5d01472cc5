import Mathlib.Data.List.Basic
import Mathlib.Data.List.TakeWhile
import Rota.Text.Blank

/-!
Texts between blanks, and lists whose items are written with a separator between them. Main
statements: trimming leaves the one core that has no blank at either end and nothing but blanks
around it, and the items of a text are the list that the text writes, of which there is exactly one.
-/

namespace Rota.Text

/-! What stands between blanks. -/

def IsGap (text : List Char) : Prop := ∀ character ∈ text, isBlank character = true

theorem IsGap.append {before after : List Char} (gapBefore : IsGap before)
    (gapAfter : IsGap after) : IsGap (before ++ after) :=
  List.forall_mem_append.mpr ⟨gapBefore, gapAfter⟩

def IsBare (text : List Char) : Prop :=
  (∀ first ∈ text.head?, isBlank first = false) ∧ ∀ last ∈ text.getLast?, isBlank last = false

/-- The core of a text, with nothing but blanks around it. -/
def Encloses (text core : List Char) : Prop :=
  ∃ before after, text = before ++ (core ++ after) ∧ IsGap before ∧ IsGap after ∧ IsBare core

theorem isGap_takeWhile (text : List Char) : IsGap (text.takeWhile isBlank) :=
  fun _ member => List.mem_takeWhile_imp member

theorem not_blank_of_head?_dropWhile (text : List Char) :
    ∀ first ∈ (text.dropWhile isBlank).head?, isBlank first = false := by
  intro first found
  have unblank := List.head?_dropWhile_not isBlank text
  rw [Option.mem_def.mp found] at unblank
  simpa using unblank

theorem dropWhile_gap {gap text : List Char} (isGap : IsGap gap)
    (starts : ∀ first ∈ text.head?, isBlank first = false) :
    (gap ++ text).dropWhile isBlank = text := by
  rw [List.dropWhile_append_of_pos isGap]
  cases text with
  | nil => rfl
  | cons first rest => exact List.dropWhile_cons_of_neg (by simp [starts first rfl])

theorem encloses_trimmed (text : List Char) : Encloses text (trimmed text) := by
  let rest := text.dropWhile isBlank
  have ends : rest = trimmed text ++ (rest.reverse.takeWhile isBlank).reverse := by
    rw [trimmed, ← List.reverse_append, List.takeWhile_append_dropWhile, List.reverse_reverse]
  refine ⟨text.takeWhile isBlank, (rest.reverse.takeWhile isBlank).reverse, ?_,
    isGap_takeWhile text, ?_, ?_, ?_⟩
  · rw [← ends, List.takeWhile_append_dropWhile]
  · intro character member
    exact isGap_takeWhile _ character (List.mem_reverse.mp member)
  · intro first found
    -- The core is the beginning of a text that does not begin with a blank.
    refine not_blank_of_head?_dropWhile text first ?_
    change rest.head? = some first
    rw [ends, List.head?_append, Option.mem_def.mp found, Option.some_or]
  · intro last found
    rw [trimmed, List.getLast?_reverse] at found
    exact not_blank_of_head?_dropWhile _ last found

theorem trimmed_of_encloses {text core : List Char} (encloses : Encloses text core) :
    trimmed text = core := by
  obtain ⟨before, after, rfl, gapBefore, gapAfter, starts, ends⟩ := encloses
  have gapBehind : IsGap after.reverse := fun character member =>
    gapAfter character (List.mem_reverse.mp member)
  by_cases empty : core = []
  · subst empty
    have dropped : (before ++ after).dropWhile isBlank = [] :=
      List.dropWhile_eq_nil_iff.mpr (gapBefore.append gapAfter)
    simp [trimmed, dropped]
  · have starts : ∀ first ∈ (core ++ after).head?, isBlank first = false := by
      rwa [List.head?_append_of_ne_nil core empty]
    have ends : ∀ last ∈ core.reverse.head?, isBlank last = false := by
      rwa [List.head?_reverse]
    rw [trimmed, dropWhile_gap gapBefore starts, List.reverse_append, dropWhile_gap gapBehind ends,
      List.reverse_reverse]

theorem trimmed_eq_iff {text core : List Char} : trimmed text = core ↔ Encloses text core :=
  ⟨fun same => same ▸ encloses_trimmed text, trimmed_of_encloses⟩

theorem exists_encloses_iff {text : List Char} {holds : List Char → Prop} :
    (∃ core, Encloses text core ∧ holds core) ↔ holds (trimmed text) := by
  simp [← trimmed_eq_iff]

/-! Lists with a separator. -/

/-- What a list can hold: it has a character, no separator, and no blank at either end. -/
structure IsItem (separator : Char) (item : String) : Prop where
  notEmpty : item ≠ ""
  whole : separator ∉ item.toList
  bare : IsBare item.toList

/-- The pieces between the separators hold the items, one to a piece, with blanks around them; any
number of pieces may be blank. -/
inductive Holds (separator : Char) : List (List Char) → List String → Prop where
  | done : Holds separator [] []
  | blank {gap : List Char} {pieces : List (List Char)} {listed : List String} (isGap : IsGap gap)
      (holds : Holds separator pieces listed) : Holds separator (gap :: pieces) listed
  | item {before after : List Char} {item : String} {pieces : List (List Char)}
      {listed : List String} (isItem : IsItem separator item) (gapBefore : IsGap before)
      (gapAfter : IsGap after) (holds : Holds separator pieces listed) :
      Holds separator ((before ++ (item.toList ++ after)) :: pieces) (item :: listed)

/-- The text joins pieces with the separator, and the pieces hold the items of the list. -/
def Writes (separator : Char) (text : String) (listed : List String) : Prop :=
  ∃ pieces, text.toList = [separator].intercalate pieces ∧ Holds separator pieces listed

theorem cutAt_eq_splitOn (separator : Char) (text : List Char) :
    cutAt (· == separator) text = text.splitOn separator := by
  rw [List.splitOn_eq_splitOnP]
  induction text with
  | nil => rfl
  | cons character rest ih =>
      rw [cutAt, List.splitOnP_cons_eq_if_modifyHead, ← ih]
      split
      · rfl
      · cases pieces : cutAt (· == separator) rest with
        | nil => exact absurd pieces (cutAt_ne_nil _ rest)
        | cons piece others => rfl

theorem whole_of_mem_splitOn {separator : Char} {text piece : List Char}
    (member : piece ∈ text.splitOn separator) : separator ∉ piece := by
  induction text generalizing piece with
  | nil => simp_all
  | cons character rest ih =>
      rw [List.splitOn_cons_eq_if_modifyHead] at member
      split at member
      · rcases List.mem_cons.mp member with rfl | later
        · exact List.not_mem_nil
        · exact ih later
      · rename_i other
        obtain ⟨first, others, pieces⟩ :=
          List.exists_cons_of_ne_nil (List.splitOn_ne_nil separator rest)
        rw [pieces, List.modifyHead_cons, List.mem_cons] at member
        rcases member with rfl | later
        · have wholeFirst := ih (pieces ▸ List.mem_cons_self)
          rw [List.mem_cons, not_or]
          exact ⟨fun same => other (beq_iff_eq.mpr same.symm), wholeFirst⟩
        · exact ih (pieces ▸ List.mem_cons_of_mem first later)

section

variable {separator : Char} {pieces : List (List Char)} {listed : List String}

theorem Holds.isItem (holds : Holds separator pieces listed) :
    ∀ item ∈ listed, IsItem separator item := by
  induction holds with
  | done => simp
  | blank _ _ ih => exact ih
  | item isItem _ _ _ ih => exact List.forall_mem_cons.mpr ⟨isItem, ih⟩

theorem Holds.whole (unblank : isBlank separator = false) (holds : Holds separator pieces listed) :
    ∀ piece ∈ pieces, separator ∉ piece := by
  have notIn {gap : List Char} (isGap : IsGap gap) : separator ∉ gap := fun member =>
    absurd (isGap separator member) (by simp [unblank])
  induction holds with
  | done => simp
  | blank isGap _ ih => exact List.forall_mem_cons.mpr ⟨notIn isGap, ih⟩
  | item isItem gapBefore gapAfter _ ih =>
      refine List.forall_mem_cons.mpr ⟨?_, ih⟩
      simp [notIn gapBefore, notIn gapAfter, isItem.whole]

theorem Holds.cores (holds : Holds separator pieces listed) :
    ((pieces.map trimmed).filter (!·.isEmpty)).map String.ofList = listed := by
  induction holds with
  | done => rfl
  | blank isGap _ ih =>
      have nothing : Encloses _ [] :=
        ⟨_, [], (List.append_nil _).symm, isGap, by simp [IsGap], by simp [IsBare]⟩
      simpa [trimmed_of_encloses nothing] using ih
  | @item before after item _ _ isItem gapBefore gapAfter _ ih =>
      have core : trimmed (before ++ (item.toList ++ after)) = item.toList :=
        trimmed_of_encloses ⟨before, after, rfl, gapBefore, gapAfter, isItem.bare⟩
      have some : item.toList ≠ [] := by simpa using isItem.notEmpty
      simpa [core, some] using ih

theorem holds_cores (whole : ∀ piece ∈ pieces, separator ∉ piece) :
    Holds separator pieces (((pieces.map trimmed).filter (!·.isEmpty)).map String.ofList) := by
  induction pieces with
  | nil => exact .done
  | cons piece pieces ih =>
      obtain ⟨wholeFirst, wholeOthers⟩ := List.forall_mem_cons.mp whole
      obtain ⟨before, after, split, gapBefore, gapAfter, bare⟩ := encloses_trimmed piece
      rw [List.map_cons, List.filter_cons]
      by_cases empty : trimmed piece = []
      · rw [empty] at split ⊢
        have isGap : IsGap piece := split ▸ gapBefore.append gapAfter
        simpa using .blank isGap (ih wholeOthers)
      · have isItem : IsItem separator (String.ofList (trimmed piece)) := by
          refine ⟨by simpa using empty, ?_, by simpa using bare⟩
          rw [String.toList_ofList]
          intro member
          rw [split] at wholeFirst
          exact wholeFirst (List.mem_append_right _ (List.mem_append_left _ member))
        have held := Holds.item isItem gapBefore gapAfter (ih wholeOthers)
        rw [String.toList_ofList, ← split] at held
        simpa [empty] using held

end

/-- A text writes one list only, which is what its items are. -/
theorem items_eq_iff {separator : Char} (unblank : isBlank separator = false) {text : String}
    {listed : List String} : items separator text = listed ↔ Writes separator text listed := by
  simp only [items, cutAt_eq_splitOn]
  constructor
  · rintro rfl
    exact ⟨text.toList.splitOn separator, (List.intercalate_splitOn separator).symm,
      holds_cores fun piece => whole_of_mem_splitOn⟩
  · rintro ⟨pieces, written, holds⟩
    rw [written]
    by_cases some : pieces = []
    · subst some
      cases holds
      simp [trimmed]
    · rw [List.splitOn_intercalate separator (holds.whole unblank) some]
      exact holds.cores

end Rota.Text
