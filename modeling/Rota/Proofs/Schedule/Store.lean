import Rota.Proofs.Rows
import Rota.Schedule.Store

/-!
The store in memory as a set of definitions with ids of their own. Main statements: which
definitions it holds after one was saved or deleted.
-/

namespace Rota.Schedule.Store

structure Sound (store : Store) : Prop where
  ascending : Rows.Ascending store.rows
  keyed : ∀ row ∈ store.rows, row.2.id = row.1

def definitions (store : Store) : List Definition := Rows.values store.rows

variable {store : Store} {definition : Definition} {id : TaskId}

theorem empty_sound : Sound {} := ⟨Rows.ascending_nil, by simp⟩

theorem Sound.save (sound : store.Sound) : (store.save definition).Sound := by
  refine ⟨Rows.ascending_put sound.ascending, ?_⟩
  intro row member
  rcases Rows.mem_put member with rfl | member
  · rfl
  · exact sound.keyed row member

theorem Sound.delete (sound : store.Sound) : (store.delete id).2.Sound :=
  ⟨Rows.ascending_erase sound.ascending,
    fun row member => sound.keyed row ((Rows.erase_sublist id store.rows).subset member)⟩

theorem findAll_rows (store : Store) : store.findAll.2.rows = store.rows := by
  simp only [findAll]
  split <;> rfl

theorem findAll_ok {definitions : List Definition} (read : store.findAll.1 = .ok definitions) :
    definitions = store.definitions := by
  simp only [findAll] at read
  split at read
  · simp at read
  · exact (Except.ok.inj read).symm

theorem mem_definitions (sound : store.Sound) :
    definition ∈ store.definitions ↔ Rows.find? definition.id store.rows = some definition := by
  simp only [definitions, Rows.values, List.mem_map]
  constructor
  · rintro ⟨⟨key, _⟩, member, rfl⟩
    have keyed := sound.keyed _ member
    simp only at keyed ⊢
    rw [keyed]
    exact Rows.find?_of_mem sound.ascending member
  · intro found
    exact ⟨_, Rows.mem_of_find? found, rfl⟩

variable {other : Definition}

theorem mem_save (sound : store.Sound) : other ∈ (store.save definition).definitions ↔
    other = definition ∨ other.id ≠ definition.id ∧ other ∈ store.definitions := by
  rw [mem_definitions sound.save, mem_definitions sound, save]
  by_cases same : other.id = definition.id
  · simp [same, Rows.find?_put_self, eq_comm]
  · have differ : other ≠ definition := fun equal => same (congrArg Definition.id equal)
    simp [same, differ, Rows.find?_put_of_ne]

theorem mem_delete (sound : store.Sound) : definition ∈ (store.delete id).2.definitions ↔
    definition.id ≠ id ∧ definition ∈ store.definitions := by
  rw [mem_definitions sound.delete, mem_definitions sound, delete]
  by_cases same : definition.id = id
  · simp [same, Rows.find?_erase_self sound.ascending]
  · simp [same, Rows.find?_erase_of_ne sound.ascending same]

end Rota.Schedule.Store
