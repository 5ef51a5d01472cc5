import Rota.Proofs.Text.Blank
import Rota.Settings

/-!
The lists among the settings: endpoints, written with commas, and protected ids, written with
semicolons, of which only the set counts. Main statement: each text writes one list, which is read;
what was read can be written and read again; and protection is of the ids that are listed.
-/

namespace Rota

/-! Lists without repetitions. -/

section

variable {α : Type} [BEq α] [LawfulBEq α]

theorem nodup_eraseDups (items : List α) : items.eraseDups.Nodup := by
  match items with
  | [] => simp
  | item :: items =>
      rw [List.eraseDups_cons, List.nodup_cons]
      exact ⟨by simp, nodup_eraseDups _⟩
termination_by items.length
decreasing_by exact Nat.lt_succ_of_le (List.length_filter_le _ items)

theorem eraseDups_of_nodup {items : List α} (distinct : items.Nodup) : items.eraseDups = items := by
  induction items with
  | nil => simp
  | cons item items ih =>
      obtain ⟨fresh, others⟩ := List.nodup_cons.mp distinct
      have kept : items.filter (fun other => !other == item) = items := by
        refine List.filter_eq_self.mpr fun other member => ?_
        have differs : other ≠ item := fun same => fresh (same ▸ member)
        simpa using differs
      rw [List.eraseDups_cons, kept, ih others]

end

namespace Text

variable {separator : Char} {text item : String} {listed : List String}

theorem mem_items_iff : item ∈ items separator text ↔
    item ≠ "" ∧ ∃ piece ∈ text.toList.splitOn separator, Encloses piece item.toList := by
  simp only [items, cutAt_eq_splitOn, ← trimmed_eq_iff, List.mem_map, List.mem_filter]
  constructor
  · rintro ⟨core, ⟨⟨piece, member, rfl⟩, some⟩, rfl⟩
    exact ⟨by simpa using some, piece, member, String.toList_ofList.symm⟩
  · rintro ⟨some, piece, member, core⟩
    exact ⟨item.toList, ⟨⟨piece, member, core⟩, by simpa using some⟩, String.ofList_toList⟩

theorem isItem_of_mem_items (unblank : isBlank separator = false)
    (member : item ∈ items separator text) : IsItem separator item := by
  obtain ⟨pieces, _, holds⟩ := (items_eq_iff unblank).mp (rfl : items separator text = _)
  exact holds.isItem item member

/-- Items that are joined without blanks are read again. -/
theorem items_intercalate (unblank : isBlank separator = false) {mark : String}
    (single : mark.toList = [separator]) (areItems : ∀ item ∈ listed, IsItem separator item) :
    items separator (mark.intercalate listed) = listed := by
  refine (items_eq_iff unblank).mpr ⟨listed.map String.toList, ?_, ?_⟩
  · rw [String.toList_intercalate, single]
  · induction listed with
    | nil => exact .done
    | cons item listed ih =>
        obtain ⟨isItem, others⟩ := List.forall_mem_cons.mp areItems
        have nothing : IsGap [] := fun _ member => absurd member List.not_mem_nil
        have held := Holds.item isItem nothing nothing (ih others)
        simpa using held

end Text

namespace Settings

open Resource

theorem unblank_comma : Text.isBlank ',' = false := by decide

theorem unblank_semicolon : Text.isBlank ';' = false := by decide

/-- Every text writes exactly one list of endpoints, and the text's endpoints are that list; its
protected ids are the set of the one list that it writes with semicolons. Joined again with the
separator, the ids in any order, they are read as they were. While demo mode is on, what is
protected are the cores of the pieces between the semicolons, but for the empty one. -/
theorem separated_lists_read_exactly (text : String) :
    (∀ endpoints, parseEndpoints text = endpoints ↔ Text.Writes ',' text endpoints) ∧
    (∀ endpoint ∈ parseEndpoints text, Text.IsItem ',' endpoint) ∧
    parseEndpoints (",".intercalate (parseEndpoints text)) = parseEndpoints text ∧
    (∃ ids, Text.Writes ';' text ids) ∧
    (∀ ids, Text.Writes ';' text ids →
      (Demo.parseProtected text).Nodup ∧ ∀ id, id ∈ Demo.parseProtected text ↔ id ∈ ids) ∧
    (∀ id ∈ Demo.parseProtected text, Text.IsItem ';' id) ∧
    (∀ ids, ids.Perm (Demo.parseProtected text) →
      Demo.parseProtected (";".intercalate ids) = ids) ∧
    ∀ demo : Demo, demo.enabled = true → demo.protectedIds = Demo.parseProtected text →
      ∀ id, demo.protects id = true ↔
        id ≠ "" ∧ ∃ piece ∈ text.toList.splitOn ';', Text.Encloses piece id.toList := by
  have endpointsAreItems : ∀ endpoint ∈ parseEndpoints text, Text.IsItem ',' endpoint :=
    fun _ => Text.isItem_of_mem_items unblank_comma
  have listed (id : String) : id ∈ Demo.parseProtected text ↔ id ∈ Text.items ';' text :=
    List.mem_eraseDups
  have idsAreItems : ∀ id ∈ Demo.parseProtected text, Text.IsItem ';' id := fun id member =>
    Text.isItem_of_mem_items unblank_semicolon ((listed id).mp member)
  have distinct : (Demo.parseProtected text).Nodup := nodup_eraseDups _
  refine ⟨fun endpoints => Text.items_eq_iff unblank_comma, endpointsAreItems,
    Text.items_intercalate unblank_comma rfl endpointsAreItems,
    ⟨_, (Text.items_eq_iff unblank_semicolon).mp rfl⟩, ?_, idsAreItems, ?_, ?_⟩
  · intro ids writes
    obtain rfl := (Text.items_eq_iff unblank_semicolon).mpr writes
    exact ⟨distinct, listed⟩
  · intro ids rearranged
    have areItems : ∀ id ∈ ids, Text.IsItem ';' id := fun id member =>
      idsAreItems id (rearranged.mem_iff.mp member)
    rw [Demo.parseProtected, Text.items_intercalate unblank_semicolon rfl areItems]
    exact eraseDups_of_nodup (rearranged.nodup_iff.mpr distinct)
  · intro demo enabled protectedIds id
    rw [← Text.mem_items_iff, ← listed, Demo.protects, enabled, protectedIds]
    simp

/-- An id with a blank in it is listed twice, among blank pieces. -/
theorem scattered_ids_protected :
    let text := "\u3000;r 1 ; ;r2;\tr 1;;"
    let demo : Demo := { enabled := true, protectedIds := Demo.parseProtected text }
    Text.Writes ';' text ["r 1", "r2", "r 1"] ∧ demo.protectedIds.Perm ["r2", "r 1"] ∧
      Demo.parseProtected (";".intercalate ["r2", "r 1"]) = ["r2", "r 1"] ∧
      demo.protects "r 1" = true ∧ demo.protects " r 1" = false := by
  intro text demo
  obtain ⟨_, _, _, _, reads, _, rejoined, protection⟩ := separated_lists_read_exactly text
  have writes : Text.Writes ';' text ["r 1", "r2", "r 1"] :=
    (Text.items_eq_iff unblank_semicolon).mp (by decide)
  obtain ⟨distinct, members⟩ := reads _ writes
  have rearranged : demo.protectedIds.Perm ["r2", "r 1"] := by
    refine (List.perm_ext_iff_of_nodup distinct (by decide)).mpr fun id => (members id).trans ?_
    grind
  have listed := protection demo rfl rfl
  refine ⟨writes, rearranged, rejoined _ rearranged.symm, ?_, ?_⟩
  · refine (listed "r 1").mpr ⟨by decide, "r 1 ".toList, by decide, ?_⟩
    exact Text.trimmed_eq_iff.mp (by decide)
  · refine Bool.eq_false_iff.mpr fun protects => ?_
    obtain ⟨_, _, _, _, _, _, _, _, bare⟩ := (listed " r 1").mp protects
    exact absurd (bare.1 ' ' rfl) (by decide)

end Settings

end Rota
