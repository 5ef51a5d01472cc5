import Rota.Proofs.Json.Leaves
import Rota.Proofs.Rows

/-!
JSON values without doubles, written and read back. Main statement: reading gives the value that was
written if it nests no deeper than the reader allows, and breaks off as malformed if it does.
-/

namespace Rota.Json

mutual

/-- How many arrays and objects stand inside each other. -/
def depth : Json → Nat
  | array items => depthOfItems items + 1
  | object members => depthOfMembers members + 1
  | _ => 0

def depthOfItems : List Json → Nat
  | [] => 0
  | item :: items => max (depth item) (depthOfItems items)

def depthOfMembers : List (String × Json) → Nat
  | [] => 0
  | (_, value) :: members => max (depth value) (depthOfMembers members)

end

/-- A value whose numbers are all integers of 64 bits. The keys of an object ascend, as in every
object that is read or made from members. -/
inductive Plain : Json → Prop
  | null : Plain null
  | bool (value : Bool) : Plain (bool value)
  | integer {value : Int} : IsWord value → Plain (integer value)
  | string (text : String) : Plain (string text)
  | array {items : List Json} : (∀ item ∈ items, Plain item) → Plain (array items)
  | object {members : List (String × Json)} : Rows.Ascending members →
      (∀ member ∈ members, Plain member.2) → Plain (object members)

theorem Plain.ofMembers {members : List (String × Json)}
    (plain : ∀ member ∈ members, Plain member.2) : Plain (ofMembers members) :=
  .object (Rows.ascending_ofList members) fun member present =>
    plain member (Rows.mem_of_mem_ofList present)

/-- A reader that answers to a value, and goes on behind it, if it nests no deeper than allowed. -/
def Reads (read : Reader Json) (limit : Nat) (json : Json) : Prop :=
  ∀ rest, EndsNumber rest → read (print json ++ rest) =
    if json.depth ≤ limit then .ok (json, rest) else .error .malformed

/-! Where a value begins. -/

/-- A character that may begin a value, and cannot end or part the items of an array. -/
def Begins (character : Char) : Prop :=
  isBlank character = false ∧ character ≠ ']' ∧ character ≠ ','

def BeginsNumber (character : Char) : Prop := character = '-' ∨ character.isDigit = true

instance (character : Char) : Decidable (BeginsNumber character) :=
  inferInstanceAs (Decidable (_ ∨ _))

theorem BeginsNumber.begins {character : Char} (begins : BeginsNumber character) :
    Begins character := by
  refine ⟨Bool.eq_false_iff.mpr fun blank => ?_, ?_, ?_⟩
  · simp only [isBlank, Bool.or_eq_true, beq_iff_eq] at blank
    rcases blank with ((rfl | rfl) | rfl) | rfl <;>
      rcases begins with same | digit <;> contradiction
  · rintro rfl
    rcases begins with same | digit <;> contradiction
  · rintro rfl
    rcases begins with same | digit <;> contradiction

theorem exists_integerText_cons (value : Int) :
    ∃ first others, integerText value = first :: others ∧ BeginsNumber first := by
  cases value with
  | ofNat number =>
      obtain ⟨first, others, written, digit⟩ := exists_toDigits_cons number
      exact ⟨first, others, written, .inr digit⟩
  | negSucc number => exact ⟨'-', _, rfl, .inl rfl⟩

theorem Plain.exists_print_cons {json : Json} (plain : Plain json) :
    ∃ first others, print json = first :: others ∧ Begins first := by
  cases plain with
  | null => exact ⟨'n', _, rfl, by decide, by decide, by decide⟩
  | bool value =>
      cases value with
      | true => exact ⟨'t', _, rfl, by decide, by decide, by decide⟩
      | false => exact ⟨'f', _, rfl, by decide, by decide, by decide⟩
  | integer =>
      obtain ⟨first, others, written, begins⟩ := exists_integerText_cons _
      exact ⟨first, others, written, begins.begins⟩
  | string => exact ⟨'"', _, rfl, by decide, by decide, by decide⟩
  | array => exact ⟨'[', _, rfl, by decide, by decide, by decide⟩
  | object => exact ⟨'\x7b', _, rfl, by decide, by decide, by decide⟩

theorem skipBlanks_cons {first : Char} {others : List Char} (solid : isBlank first = false) :
    skipBlanks (first :: others) = first :: others := by
  simp [skipBlanks, solid]

/-! Scalars. -/

def innerReader : Nat → Option (Reader Json)
  | 0 => none
  | limit + 1 => some (readValue kept limit)

theorem readValue_kept (limit : Nat) :
    readValue kept limit = readValueWith kept (innerReader limit) := by
  cases limit <;> rfl

theorem readValueWith_number {inner : Option (Reader Json)} {first : Char} {others : List Char}
    (begins : BeginsNumber first) :
    readValueWith kept inner (first :: others) = readNumber (first :: others) := by
  rw [readValueWith, skipBlanks_cons begins.begins.1]
  have other {character : Char} {rest : List Char} (same : first :: others = character :: rest)
      (unlike : ¬BeginsNumber character) : False := unlike ((List.cons.inj same).1 ▸ begins)
  split
  · rename_i same
    cases same
  · exact (other ‹_› (by decide)).elim
  · exact (other ‹_› (by decide)).elim
  · exact (other ‹_› (by decide)).elim
  · exact (other ‹_› (by decide)).elim
  · exact (other ‹_› (by decide)).elim
  · exact (other ‹_› (by decide)).elim
  · rename_i character rest _ _ _ _ _ _ same
    obtain ⟨rfl, rfl⟩ := List.cons.inj same
    have starts : (first == '-' || first.isDigit) = true := by simpa [BeginsNumber] using begins
    rw [if_pos starts]
    rfl

/-! Arrays. -/

/-- The items of an array behind its first one. -/
def printRest (items : List Json) : List Char := items.flatMap fun item => ',' :: print item

theorem printItems_cons (item : Json) (items : List Json) :
    printItems (item :: items) = print item ++ printRest items := by
  induction items generalizing item with
  | nil => simp [printItems, printRest]
  | cons next items ih => simp [printItems, printRest, ih next]

theorem endsNumber_printRest (items : List Json) (rest : List Char) :
    EndsNumber (printRest items ++ ']' :: rest) := by
  cases items with
  | nil =>
      rintro character ⟨⟩
      decide
  | cons item items =>
      rintro character ⟨⟩
      decide

theorem nextItem_print {json : Json} (plain : Plain json) (rest : List Char) :
    nextItem true (print json ++ rest) = .ok (some (print json ++ rest)) ∧
      nextItem false (',' :: (print json ++ rest)) = .ok (some (print json ++ rest)) := by
  obtain ⟨first, others, written, solid, closing, comma⟩ := plain.exists_print_cons
  have parting : isBlank ',' = false := rfl
  simp [nextItem, written, skipBlanks_cons, solid, closing, comma, parting]

/-- An item is read with all that follow it. -/
theorem readItems_item {read : Reader Json} {limit fuel : Nat} {first : Bool} {item : Json}
    {items : List Json} {text rest : List Char}
    (next : nextItem first text = .ok (some (print item ++ (printRest items ++ ']' :: rest))))
    (reads : Reads read limit item)
    (others : readItems read fuel false (printRest items ++ ']' :: rest) =
      if depthOfItems items ≤ limit then .ok (items, rest) else .error .malformed) :
    readItems read (fuel + 1) first text =
      if depthOfItems (item :: items) ≤ limit then .ok (item :: items, rest)
      else .error .malformed := by
  have within : depthOfItems (item :: items) ≤ limit ↔
      item.depth ≤ limit ∧ depthOfItems items ≤ limit := Nat.max_le
  rw [readItems, next]
  simp only [bind, Except.bind, reads _ (endsNumber_printRest items rest), within]
  by_cases fits : item.depth ≤ limit
  · simp only [fits, if_true, others, true_and]
    by_cases fit : depthOfItems items ≤ limit
    · simp only [fit, if_true]
      rfl
    · simp only [fit, if_false]
  · simp only [fits, if_false, false_and]

theorem readItems_printRest {read : Reader Json} {limit : Nat} {items : List Json}
    (plain : ∀ item ∈ items, Plain item) (reads : ∀ item ∈ items, Reads read limit item)
    {fuel : Nat} (enough : items.length < fuel) (rest : List Char) :
    readItems read fuel false (printRest items ++ ']' :: rest) =
      if depthOfItems items ≤ limit then .ok (items, rest) else .error .malformed := by
  induction items generalizing fuel with
  | nil =>
      obtain ⟨fuel, rfl⟩ := Nat.exists_eq_add_one.mpr enough
      rw [depthOfItems, if_pos (Nat.zero_le limit)]
      rfl
  | cons item items ih =>
      obtain ⟨fuel, rfl⟩ := Nat.exists_eq_add_one.mpr (Nat.zero_lt_of_lt enough)
      obtain ⟨plainFirst, plainRest⟩ := List.forall_mem_cons.mp plain
      obtain ⟨readsFirst, readsRest⟩ := List.forall_mem_cons.mp reads
      refine readItems_item ?_ readsFirst (ih plainRest readsRest (Nat.lt_of_succ_lt_succ enough))
      have next := (nextItem_print plainFirst (printRest items ++ ']' :: rest)).2
      simpa [printRest] using next

theorem length_printRest (items : List Json) : items.length ≤ (printRest items).length := by
  induction items with
  | nil => exact Nat.le_refl _
  | cons item items ih =>
      rw [printRest, List.flatMap_cons, List.length_append, ← printRest, List.length_cons,
        List.length_cons]
      omega

theorem readItems_printItems {read : Reader Json} {limit : Nat} {items : List Json}
    (plain : ∀ item ∈ items, Plain item) (reads : ∀ item ∈ items, Reads read limit item)
    (rest : List Char) :
    let text := printItems items ++ ']' :: rest
    readItems read (text.length + 1) true text =
      if depthOfItems items ≤ limit then .ok (items, rest) else .error .malformed := by
  intro text
  cases items with
  | nil =>
      rw [depthOfItems, if_pos (Nat.zero_le limit)]
      rfl
  | cons item items =>
      obtain ⟨plainFirst, plainRest⟩ := List.forall_mem_cons.mp plain
      obtain ⟨readsFirst, readsRest⟩ := List.forall_mem_cons.mp reads
      have same : text = print item ++ (printRest items ++ ']' :: rest) := by
        simp only [text, printItems_cons, List.append_assoc]
      have enough : items.length < text.length := by
        have shorter := length_printRest items
        rw [same, List.length_append, List.length_append, List.length_cons]
        omega
      refine readItems_item ?_ readsFirst (readItems_printRest plainRest readsRest enough rest)
      rw [same]
      exact (nextItem_print plainFirst _).1

/-! Objects. -/

def printMember (member : String × Json) : List Char := quoted member.1 ++ ':' :: print member.2

/-- The members of an object behind its first one. -/
def printMembersRest (members : List (String × Json)) : List Char :=
  members.flatMap fun member => ',' :: printMember member

theorem printMembers_cons (member : String × Json) (members : List (String × Json)) :
    printMembers (member :: members) = printMember member ++ printMembersRest members := by
  induction members generalizing member with
  | nil => simp [printMembers, printMembersRest, printMember]
  | cons next members ih => simp [printMembers, printMembersRest, printMember, ih next]

theorem endsNumber_printMembersRest (members : List (String × Json)) (rest : List Char) :
    EndsNumber (printMembersRest members ++ '\x7d' :: rest) := by
  cases members with
  | nil =>
      rintro character ⟨⟩
      decide
  | cons member members =>
      rintro character ⟨⟩
      decide

/-- Reads the value of a member and writes it under its key. -/
def readMember (inner : Reader Json) (members : List (String × Json)) (key : String) :
    Reader (List (String × Json)) := fun text => do
  let (value, text) ← inner (← readColon text)
  return (Rows.put key value members, text)

theorem readMember_print {inner : Reader Json} {limit : Nat} {value : Json}
    (reads : Reads inner limit value) (before : List (String × Json)) (key : String)
    {rest : List Char} (ends : EndsNumber rest) :
    readMember inner before key (':' :: (print value ++ rest)) =
      if value.depth ≤ limit then .ok (Rows.put key value before, rest)
      else .error .malformed := by
  have colon : readColon (':' :: (print value ++ rest)) = .ok (print value ++ rest) := rfl
  simp only [readMember, colon, reads rest ends, bind, Except.bind, pure, Except.pure]
  by_cases fits : value.depth ≤ limit
  · simp only [fits, if_true]
  · simp only [fits, if_false]

variable {inner : Reader Json} {limit fuel : Nat} {member : String × Json}
  {members before : List (String × Json)} {text rest : List Char}

/-- A member is read with all that follow it. -/
theorem readMembers_member {first : Bool} {inside : List Char}
    (next : nextKey first text = .ok (some inside))
    (key : readString readEscape inside = .ok (member.1,
      ':' :: (print member.2 ++ (printMembersRest members ++ '\x7d' :: rest))))
    (reads : Reads inner limit member.2)
    (after : ∀ row ∈ before, compare row.1 member.1 = .lt)
    (others : readMembers (readString readEscape) (readMember inner) fuel false (before ++ [member])
        (printMembersRest members ++ '\x7d' :: rest) =
      if depthOfMembers members ≤ limit then .ok (before ++ [member] ++ members, rest)
      else .error .malformed) :
    readMembers (readString readEscape) (readMember inner) (fuel + 1) first before text =
      if depthOfMembers (member :: members) ≤ limit then .ok (before ++ member :: members, rest)
      else .error .malformed := by
  have within : depthOfMembers (member :: members) ≤ limit ↔
      member.2.depth ≤ limit ∧ depthOfMembers members ≤ limit := Nat.max_le
  rw [readMembers, next]
  simp only [bind, Except.bind, key,
    readMember_print reads before member.1 (endsNumber_printMembersRest members rest), within]
  by_cases fits : member.2.depth ≤ limit
  · simp only [fits, if_true, true_and, Rows.put_of_after member.2 after, others]
    rw [List.append_assoc, List.singleton_append]
  · simp only [fits, if_false, false_and]

theorem readMembers_printMembersRest (reads : ∀ member ∈ members, Reads inner limit member.2)
    (ascending : Rows.Ascending (before ++ members)) (enough : members.length < fuel)
    (rest : List Char) :
    readMembers (readString readEscape) (readMember inner) fuel false before
        (printMembersRest members ++ '\x7d' :: rest) =
      if depthOfMembers members ≤ limit then .ok (before ++ members, rest)
      else .error .malformed := by
  induction members generalizing fuel before with
  | nil =>
      obtain ⟨fuel, rfl⟩ := Nat.exists_eq_add_one.mpr enough
      rw [depthOfMembers, if_pos (Nat.zero_le limit), List.append_nil]
      rfl
  | cons member members ih =>
      obtain ⟨fuel, rfl⟩ := Nat.exists_eq_add_one.mpr (Nat.zero_lt_of_lt enough)
      obtain ⟨readsFirst, readsRest⟩ := List.forall_mem_cons.mp reads
      obtain ⟨inside, opened, key⟩ := readString_quoted member.1
        (':' :: (print member.2 ++ (printMembersRest members ++ '\x7d' :: rest)))
      have after : ∀ row ∈ before, compare row.1 member.1 = .lt := fun row earlier =>
        (List.pairwise_append.mp ascending).2.2 row earlier member List.mem_cons_self
      have next : nextKey false (printMembersRest (member :: members) ++ '\x7d' :: rest) =
          .ok (some inside) := by
        have same : printMembersRest (member :: members) ++ '\x7d' :: rest =
            ',' :: '"' :: inside := by
          rw [← opened]
          simp [printMembersRest, printMember]
        rw [same]
        rfl
      refine readMembers_member next key readsFirst after (ih readsRest ?_ ?_)
      · rw [List.append_assoc, List.singleton_append]
        exact ascending
      · exact Nat.lt_of_succ_lt_succ enough

theorem length_printMembersRest (members : List (String × Json)) :
    members.length ≤ (printMembersRest members).length := by
  induction members with
  | nil => exact Nat.le_refl _
  | cons member members ih =>
      rw [printMembersRest, List.flatMap_cons, List.length_append, ← printMembersRest,
        List.length_cons, List.length_cons]
      omega

theorem readMembers_printMembers (reads : ∀ member ∈ members, Reads inner limit member.2)
    (ascending : Rows.Ascending members) (rest : List Char) :
    let text := printMembers members ++ '\x7d' :: rest
    readMembers (readString readEscape) (readMember inner) (text.length + 1) true [] text =
      if depthOfMembers members ≤ limit then .ok (members, rest) else .error .malformed := by
  intro text
  cases members with
  | nil =>
      rw [depthOfMembers, if_pos (Nat.zero_le limit)]
      rfl
  | cons member members =>
      obtain ⟨readsFirst, readsRest⟩ := List.forall_mem_cons.mp reads
      obtain ⟨inside, opened, key⟩ := readString_quoted member.1
        (':' :: (print member.2 ++ (printMembersRest members ++ '\x7d' :: rest)))
      have same : text = '"' :: inside := by
        rw [← opened]
        simp [text, printMembers_cons, printMember]
      have enough : members.length < text.length := by
        have shorter := length_printMembersRest members
        simp only [text, printMembers_cons, List.length_append, List.length_cons]
        omega
      have next : nextKey true text = .ok (some inside) := by
        rw [same]
        rfl
      have ordered : Rows.Ascending ([member] ++ members) := ascending
      exact readMembers_member next key readsFirst (by simp)
        (readMembers_printMembersRest readsRest ordered enough rest)

/-! Values. -/

theorem reads_flat {json : Json} (flat : json.depth = 0)
    (reads : ∀ rest, EndsNumber rest →
      readValueWith kept (innerReader limit) (print json ++ rest) = .ok (json, rest)) :
    Reads (readValue kept limit) limit json := by
  intro rest ends
  rw [readValue_kept, flat, if_pos (Nat.zero_le limit), reads rest ends]

theorem readValueWith_quote (text : List Char) :
    readValueWith kept (innerReader limit) ('"' :: text) =
      (readString readEscape text).map fun read => (string read.1, read.2) := rfl

theorem readValue_bracket (limit : Nat) (text : List Char) :
    readValue kept (limit + 1) ('[' :: text) =
      (readItems (readValue kept limit) (text.length + 1) true text).map
        fun read => (array read.1, read.2) := rfl

theorem readValue_brace (limit : Nat) (text : List Char) :
    readValue kept (limit + 1) ('\x7b' :: text) =
      (readMembers (readString readEscape) (readMember (readValue kept limit))
        (text.length + 1) true [] text).map fun read => (object read.1, read.2) := rfl

theorem reads_array {items : List Json} (plain : ∀ item ∈ items, Plain item)
    (reads : ∀ limit, ∀ item ∈ items, Reads (readValue kept limit) limit item) (limit : Nat) :
    Reads (readValue kept limit) limit (array items) := by
  intro rest _
  have written : print (array items) ++ rest = '[' :: (printItems items ++ ']' :: rest) := by
    simp [print]
  cases limit with
  | zero =>
      rw [written, depth, if_neg (Nat.not_succ_le_zero _)]
      rfl
  | succ limit =>
      rw [written, readValue_bracket, readItems_printItems plain (reads limit), depth]
      simp only [Nat.add_le_add_iff_right]
      split
      · rfl
      · rfl

theorem reads_object (ascending : Rows.Ascending members)
    (reads : ∀ limit, ∀ member ∈ members, Reads (readValue kept limit) limit member.2)
    (limit : Nat) : Reads (readValue kept limit) limit (object members) := by
  intro rest _
  have written : print (object members) ++ rest =
      '\x7b' :: (printMembers members ++ '\x7d' :: rest) := by
    simp [print]
  cases limit with
  | zero =>
      rw [written, depth, if_neg (Nat.not_succ_le_zero _)]
      rfl
  | succ limit =>
      rw [written, readValue_brace, readMembers_printMembers (reads limit) ascending, depth]
      simp only [Nat.add_le_add_iff_right]
      split
      · rfl
      · rfl

theorem Plain.reads {json : Json} (plain : Plain json) (limit : Nat) :
    Reads (readValue kept limit) limit json := by
  induction plain generalizing limit with
  | null => exact reads_flat rfl fun rest _ => rfl
  | bool value => exact reads_flat rfl fun rest _ => by cases value <;> rfl
  | @integer value word =>
      refine reads_flat rfl fun rest ends => ?_
      obtain ⟨first, others, written, begins⟩ := exists_integerText_cons value
      have number := readNumber_integerText word ends
      rw [print]
      rw [written, List.cons_append] at number ⊢
      rw [readValueWith_number begins, number]
  | string text =>
      refine reads_flat rfl fun rest _ => ?_
      obtain ⟨inside, opened, read⟩ := readString_quoted text rest
      rw [print, opened, readValueWith_quote, read]
      rfl
  | array plain ih => exact reads_array plain (fun limit item member => ih item member limit) limit
  | object ascending _ ih =>
      exact reads_object ascending (fun limit member present => ih member present limit) limit

/-- A list that is written and read back. -/
theorem parseList_listText {items : List Json} (plain : ∀ item ∈ items, Plain item) :
    parseList (listText items) =
      if (array items).depth ≤ maxDepth then .ok items else .error .malformed := by
  have opened : (listText items).toList = '[' :: (printItems items ++ [']']) := by
    simp [listText, text, print]
  have first : skipBlanks ('[' :: (printItems items ++ [']'])) =
      '[' :: (printItems items ++ [']']) := rfl
  have read := readItems_printItems plain
    (fun item member => (plain item member).reads (maxDepth - 1)) []
  have within : depthOfItems items + 1 ≤ maxDepth ↔ depthOfItems items ≤ maxDepth - 1 := by
    rw [maxDepth]
    omega
  simp only [parseList, opened, first, read, depth, within]
  split
  · rfl
  · rfl

end Rota.Json
