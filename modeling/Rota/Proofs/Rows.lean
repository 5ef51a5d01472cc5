import Mathlib.Data.List.Perm.Basic
import Rota.Proofs.Run
import Rota.Rows

/-!
Rows as finite maps. Main statements: what is found after another key was written or erased, and
that the keys stay in ascending order.
-/

namespace Rota.Rows

open Std

variable {κ α : Type} [Ord κ]

def Ascending (rows : List (κ × α)) : Prop :=
  rows.Pairwise fun row next => compare row.1 next.1 = .lt

theorem ascending_nil : Ascending ([] : List (κ × α)) := .nil

theorem find?_cons_eq_none {key : κ} {row : κ × α} {rows : List (κ × α)}
    (before : compare key row.1 = .lt) : find? key (row :: rows) = none := by
  simp [find?, before]

theorem find?_of_before {key : κ} {rows : List (κ × α)}
    (before : ∀ row ∈ rows, compare key row.1 = .lt) : find? key rows = none := by
  cases rows with
  | nil => rfl
  | cons row rows => exact find?_cons_eq_none (before row List.mem_cons_self)

theorem mem_put {key : κ} {value : α} {rows : List (κ × α)} {row : κ × α}
    (member : row ∈ put key value rows) : row = (key, value) ∨ row ∈ rows := by
  induction rows with
  | nil => simpa [put] using member
  | cons first rows ih =>
      simp only [put] at member
      cases order : compare key first.1 with
      | lt => simpa [order] using member
      | eq =>
          simp only [order, List.mem_cons] at member
          exact member.imp_right (List.mem_cons_of_mem _)
      | gt =>
          simp only [order, List.mem_cons] at member
          rcases member with rfl | later
          · exact .inr List.mem_cons_self
          · exact (ih later).imp_right (List.mem_cons_of_mem _)

theorem put_of_after [OrientedOrd κ] {key : κ} (value : α) {rows : List (κ × α)}
    (after : ∀ row ∈ rows, compare row.1 key = .lt) :
    put key value rows = rows ++ [(key, value)] := by
  induction rows with
  | nil => rfl
  | cons row rows ih =>
      obtain ⟨first, rest⟩ := List.forall_mem_cons.mp after
      simp only [put, OrientedCmp.gt_of_lt first, ih rest, List.cons_append]

theorem find?_erase_self [LawfulEqOrd κ] {key : κ} {rows : List (κ × α)}
    (ascending : Ascending rows) : find? key (erase key rows) = none := by
  induction rows with
  | nil => rfl
  | cons row rows ih =>
      obtain ⟨first, rest⟩ := List.pairwise_cons.mp ascending
      simp only [erase]
      cases order : compare key row.1 with
      | lt => exact find?_cons_eq_none order
      | eq =>
          have same := LawfulEqCmp.eq_of_compare order
          exact find?_of_before fun next member => same ▸ first next member
      | gt => simpa [find?, order] using ih rest

section

variable [TransOrd κ] [LawfulEqOrd κ]

theorem find?_put (key other : κ) (value : α) (rows : List (κ × α)) :
    find? other (put key value rows) =
      if compare other key = .eq then some value else find? other rows := by
  induction rows with
  | nil =>
      simp only [put, find?]
      cases compare other key <;> rfl
  | cons row rows ih =>
      simp only [put]
      cases placed : compare key row.1 with
      | lt =>
          simp only [find?]
          cases order : compare other key with
          | lt => simp [TransCmp.lt_trans order placed]
          | eq => rfl
          | gt => rfl
      | eq =>
          have same := LawfulEqCmp.eq_of_compare placed
          simp only [find?, ← same]
          cases compare other key <;> rfl
      | gt =>
          simp only [find?, ih]
          cases order : compare other row.1 with
          | lt =>
              have before := TransCmp.lt_trans order (OrientedCmp.lt_of_gt placed)
              simp [before]
          | eq =>
              have before := LawfulEqCmp.eq_of_compare order ▸ OrientedCmp.lt_of_gt placed
              simp [before]
          | gt => rfl

theorem find?_put_self (key : κ) (value : α) (rows : List (κ × α)) :
    find? key (put key value rows) = some value := by
  simp [find?_put]

theorem find?_put_of_ne {key other : κ} (value : α) (rows : List (κ × α)) (differ : other ≠ key) :
    find? other (put key value rows) = find? other rows := by
  simp [find?_put, differ]

theorem find?_erase_of_ne {key other : κ} {rows : List (κ × α)} (ascending : Ascending rows)
    (differ : other ≠ key) : find? other (erase key rows) = find? other rows := by
  induction rows with
  | nil => rfl
  | cons row rows ih =>
      obtain ⟨first, rest⟩ := List.pairwise_cons.mp ascending
      simp only [erase]
      cases order : compare key row.1 with
      | lt => rfl
      | eq =>
          have same := LawfulEqCmp.eq_of_compare order
          simp only [find?, ← same]
          cases side : compare other key with
          | lt =>
              exact find?_of_before fun next member =>
                TransCmp.lt_trans side (same ▸ first next member)
          | eq => exact absurd (LawfulEqCmp.eq_of_compare side) differ
          | gt => rfl
      | gt => simp only [find?, ih rest]

theorem ascending_put {key : κ} {value : α} {rows : List (κ × α)} (ascending : Ascending rows) :
    Ascending (put key value rows) := by
  induction rows with
  | nil => exact List.pairwise_singleton _ _
  | cons row rows ih =>
      obtain ⟨first, rest⟩ := List.pairwise_cons.mp ascending
      simp only [put]
      cases order : compare key row.1 with
      | lt =>
          refine List.pairwise_cons.mpr ⟨?_, ascending⟩
          intro next member
          rcases List.mem_cons.mp member with rfl | later
          · exact order
          · exact TransCmp.lt_trans order (first next later)
      | eq =>
          have same := LawfulEqCmp.eq_of_compare order
          exact List.pairwise_cons.mpr ⟨fun next member => same ▸ first next member, rest⟩
      | gt =>
          refine List.pairwise_cons.mpr ⟨?_, ih rest⟩
          intro next member
          rcases mem_put member with rfl | later
          · exact OrientedCmp.lt_of_gt order
          · exact first next later

theorem find?_of_mem {key : κ} {value : α} {rows : List (κ × α)} (ascending : Ascending rows)
    (member : (key, value) ∈ rows) : find? key rows = some value := by
  induction rows with
  | nil => simp at member
  | cons row rows ih =>
      obtain ⟨first, rest⟩ := List.pairwise_cons.mp ascending
      rcases List.mem_cons.mp member with rfl | later
      · simp [find?]
      · have after := OrientedCmp.gt_of_lt (first _ later)
        simpa [find?, after] using ih rest later

end

theorem erase_sublist (key : κ) (rows : List (κ × α)) : (erase key rows).Sublist rows := by
  induction rows with
  | nil => exact .slnil
  | cons row rows ih =>
      simp only [erase]
      cases compare key row.1 with
      | lt => exact List.Sublist.refl _
      | eq => exact List.sublist_cons_self _ _
      | gt => exact ih.cons_cons _

theorem ascending_erase {key : κ} {rows : List (κ × α)} (ascending : Ascending rows) :
    Ascending (erase key rows) :=
  ascending.sublist (erase_sublist key rows)

theorem mem_of_find? [LawfulEqOrd κ] {key : κ} {value : α} {rows : List (κ × α)}
    (found : find? key rows = some value) : (key, value) ∈ rows := by
  induction rows with
  | nil => simp [find?] at found
  | cons row rows ih =>
      simp only [find?] at found
      cases order : compare key row.1 with
      | lt => simp [order] at found
      | eq =>
          have same := LawfulEqCmp.eq_of_compare order
          simp only [order, Option.some.injEq] at found
          rw [same, ← found]
          exact List.mem_cons_self
      | gt =>
          simp only [order] at found
          exact List.mem_cons_of_mem _ (ih found)

theorem mem_keys_of_find? [LawfulEqOrd κ] {key : κ} {value : α} {rows : List (κ × α)}
    (found : find? key rows = some value) : key ∈ keys rows :=
  List.mem_map.mpr ⟨_, mem_of_find? found, rfl⟩

theorem Ascending.keys {rows : List (κ × α)} (ascending : Ascending rows) :
    (keys rows).Pairwise fun key next => compare key next = .lt :=
  List.pairwise_map.mpr ascending

theorem Ascending.keys_nodup [LawfulEqOrd κ] {rows : List (κ × α)} (ascending : Ascending rows) :
    (Rows.keys rows).Nodup := by
  refine ascending.keys.imp fun before same => ?_
  subst same
  simp at before

theorem ofList_concat (rows : List (κ × α)) (row : κ × α) :
    ofList (rows ++ [row]) = put row.1 row.2 (ofList rows) := by
  simp [ofList]

theorem mem_of_mem_ofList {rows : List (κ × α)} {row : κ × α} (member : row ∈ ofList rows) :
    row ∈ rows := by
  induction rows using List.reverseRecOn with
  | nil => exact member
  | append_singleton rows last ih =>
      rw [ofList_concat] at member
      rcases mem_put member with rfl | earlier
      · exact List.mem_concat_self
      · exact List.mem_append_left _ (ih earlier)

section

variable [TransOrd κ] [LawfulEqOrd κ] {rows others : List (κ × α)}

theorem mem_keys {key : κ} (ascending : Ascending rows) :
    key ∈ keys rows ↔ (find? key rows).isSome = true := by
  constructor
  · intro member
    obtain ⟨⟨key, value⟩, listed, rfl⟩ := List.mem_map.mp member
    rw [find?_of_mem ascending listed]
    rfl
  · intro found
    obtain ⟨value, found⟩ := Option.isSome_iff_exists.mp found
    exact mem_keys_of_find? found

theorem keys_eq_of_mem (ascending : Ascending rows) (ascendingToo : Ascending others)
    (same : ∀ key, key ∈ keys rows ↔ key ∈ keys others) : keys rows = keys others := by
  refine List.Perm.eq_of_pairwise ?_ ascending.keys ascendingToo.keys
    ((List.perm_ext_iff_of_nodup ascending.keys_nodup ascendingToo.keys_nodup).mpr same)
  intro key next _ _ before after
  rw [OrientedCmp.gt_of_lt before] at after
  cases after

theorem ascending_ofList (rows : List (κ × α)) : Ascending (ofList rows) := by
  induction rows using List.reverseRecOn with
  | nil => exact ascending_nil
  | append_singleton rows row ih =>
      rw [ofList_concat]
      exact ascending_put ih

theorem mem_keys_ofList {key : κ} : key ∈ keys (ofList rows) ↔ key ∈ keys rows := by
  induction rows using List.reverseRecOn with
  | nil => rfl
  | append_singleton rows row ih =>
      rw [mem_keys (ascending_ofList _)] at ih ⊢
      rw [ofList_concat, find?_put, keys, List.map_append, List.mem_append, ← keys, ← ih]
      by_cases same : key = row.1
      · simp [same]
      · simp [same]

end

end Rota.Rows
