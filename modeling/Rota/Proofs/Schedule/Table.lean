import Rota.Proofs.Run
import Rota.Proofs.Schedule.Store
import Rota.Schedule.Table

/-!
The store in memory and the database table, side by side. Main statement: after any requests both
answer from the versions that were saved last and not deleted since, the table always, and the
store in memory unless its reads are made to fail.
-/

namespace Rota.Schedule

/-! The table as a set of definitions with ids of their own. -/

namespace Table

def Sound (table : Table) : Prop := (table.rows.map Definition.id).Nodup

variable {table : Table} {definition other : Definition} {id : TaskId}

theorem empty_sound : Sound {} := List.nodup_nil

theorem contains_eq_true : table.contains id = true ↔ ∃ row ∈ table.rows, row.id = id := by
  simp [contains]

theorem Sound.upsert (sound : table.Sound) : (table.upsert definition).Sound := by
  unfold Sound Table.upsert
  split
  · have ids : (table.rows.map fun row => if row.id == definition.id then definition else row).map
        Definition.id = table.rows.map Definition.id := by
      rw [List.map_map]
      refine List.map_congr_left fun row _ => ?_
      by_cases same : row.id = definition.id <;> simp [same]
    exact ids ▸ sound
  · rename_i absent
    rw [contains_eq_true] at absent
    rw [List.map_append, List.nodup_append]
    refine ⟨sound, List.pairwise_singleton _ _, ?_⟩
    rintro _ old _ fresh rfl
    obtain ⟨row, member, same⟩ := List.mem_map.mp old
    exact absent ⟨row, member, same.trans (List.mem_singleton.mp fresh)⟩

theorem Sound.delete (sound : table.Sound) : (table.delete id).2.Sound :=
  sound.sublist (List.filter_sublist.map Definition.id)

theorem mem_upsert : other ∈ (table.upsert definition).rows ↔
    other = definition ∨ other.id ≠ definition.id ∧ other ∈ table.rows := by
  unfold upsert
  split
  · rename_i present
    obtain ⟨row, member, same⟩ := contains_eq_true.mp present
    rw [List.mem_map]
    constructor
    · rintro ⟨row, member, rfl⟩
      by_cases same : row.id = definition.id
      · simp [same]
      · simp [same, member]
    · rintro (rfl | ⟨differ, member⟩)
      · exact ⟨row, member, by simp [same]⟩
      · exact ⟨other, member, by simp [differ]⟩
  · rename_i absent
    rw [contains_eq_true] at absent
    simp only [List.mem_append, List.mem_singleton]
    constructor
    · rintro (member | rfl)
      · exact .inr ⟨fun same => absent ⟨other, member, same⟩, member⟩
      · exact .inl rfl
    · rintro (rfl | ⟨_, member⟩)
      · exact .inr rfl
      · exact .inl member

theorem mem_delete : other ∈ (table.delete id).2.rows ↔ other.id ≠ id ∧ other ∈ table.rows := by
  simp [delete, and_comm]

theorem selectOrdered_empty : selectOrdered {} = [] := by simp [selectOrdered]

theorem mem_selectOrdered : other ∈ table.selectOrdered ↔ other ∈ table.rows :=
  (List.mergeSort_perm table.rows _).mem_iff

theorem Sound.selectOrdered_ascending (sound : table.Sound) :
    table.selectOrdered.Pairwise fun row next => row.id < next.id := by
  have ordered : table.selectOrdered.Pairwise fun row next => row.id ≤ next.id := by
    have sorted : table.selectOrdered.Pairwise fun row next => decide (row.id ≤ next.id) = true :=
      List.pairwise_mergeSort (fun _ _ _ => by simpa using Int.le_trans)
        (fun _ _ => by simpa using Int.le_total ..) table.rows
    exact sorted.imp fun below => by simpa using below
  have distinct : table.selectOrdered.Pairwise fun row next => row.id ≠ next.id := by
    have ids : (table.selectOrdered.map Definition.id).Nodup :=
      ((List.mergeSort_perm table.rows _).map Definition.id).nodup_iff.mpr sound
    exact List.pairwise_map.mp ids
  exact (ordered.and distinct).imp fun both => Int.lt_iff_le_and_ne.mpr both

end Table

theorem Store.Sound.definitions_ascending {store : Store} (sound : store.Sound) :
    store.definitions.Pairwise fun row next => row.id < next.id := by
  rw [definitions, Rows.values, List.pairwise_map]
  refine sound.ascending.imp_of_mem fun {row next} member later below => ?_
  rw [sound.keyed row member, sound.keyed next later]
  exact Std.compare_eq_lt.mp below

theorem Store.Sound.present_iff {store : Store} (sound : store.Sound) {id : TaskId} :
    (store.delete id).1 = true ↔ ∃ definition ∈ store.definitions, definition.id = id := by
  rw [Store.delete, Option.isSome_iff_exists]
  constructor
  · rintro ⟨definition, found⟩
    have keyed := sound.keyed _ (Rows.mem_of_find? found)
    refine ⟨definition, (mem_definitions sound).mpr ?_, keyed⟩
    rw [keyed]
    exact found
  · rintro ⟨definition, member, rfl⟩
    exact ⟨definition, (mem_definitions sound).mp member⟩

theorem eq_of_ascending {left right : List Definition}
    (ordered : left.Pairwise fun row next => row.id < next.id)
    (orderedToo : right.Pairwise fun row next => row.id < next.id)
    (same : ∀ definition, definition ∈ left ↔ definition ∈ right) : left = right := by
  have distinct {definitions : List Definition}
      (ordered : definitions.Pairwise fun row next => row.id < next.id) : definitions.Nodup := by
    refine ordered.imp fun below equal => ?_
    exact Int.ne_of_lt below (congrArg Definition.id equal)
  refine List.Perm.eq_of_pairwise ?_ ordered orderedToo
    ((List.perm_ext_iff_of_nodup (distinct ordered) (distinct orderedToo)).mpr same)
  intro row next _ _ below above
  exact absurd below (Int.lt_asymm above)

/-! Requests. -/

/-- What a store of definitions offers to those who use it. -/
structure Backend (α : Type) where
  save : α → Definition → α
  delete : α → TaskId → Bool × α
  findAll : α → Except Error (List Definition) × α
  failReads : α → Nat → α

def Store.backend : Backend Store :=
  { save := Store.save, delete := Store.delete, findAll := Store.findAll,
    failReads := Store.failReads }

/-- Reads of a table cannot be made to fail. -/
def Table.backend : Backend Table :=
  { save := Table.upsert, delete := Table.delete
    findAll := fun table => (.ok table.selectOrdered, table)
    failReads := fun table _ => table }

inductive Request where
  | save (definition : Definition)
  | delete (id : TaskId)
  | findAll
  | failReads (count : Nat)
deriving DecidableEq

inductive Reply where
  | done
  | deleted (present : Bool)
  | found (read : Except Error (List Definition))

def Request.concerns (id : TaskId) : Request → Bool
  | .save definition => definition.id == id
  | .delete other => other == id
  | _ => false

/-- The definition is the last version that was saved under its id, and has not been deleted. -/
def Stored (requests : List Request) (definition : Definition) : Prop :=
  Since (· = .save definition) (fun later => later.concerns definition.id = false) requests

/-- Reads were made to fail, more of them than have been asked for since, counting `owed` more. -/
def Failing (requests : List Request) (owed : Nat) : Prop :=
  ∃ before count later, requests = before ++ .failReads count :: later ∧
    (∀ other, .failReads other ∉ later) ∧ later.count .findAll + owed < count

variable {requests : List Request} {request : Request} {definition : Definition} {id : TaskId}

theorem stored_append : Stored (requests ++ [request]) definition ↔
    request = .save definition ∨
      Stored requests definition ∧ request.concerns definition.id = false :=
  since_append

/-- What is stored under an id depends on the requests that concern it, and on no others. -/
theorem stored_filter :
    Stored (requests.filter (·.concerns definition.id)) definition ↔
      Stored requests definition := by
  induction requests using List.reverseRecOn with
  | nil => rfl
  | append_singleton requests last ih =>
      rw [List.filter_append, stored_append]
      cases concerned : last.concerns definition.id with
      | true =>
          rw [List.filter_cons_of_pos concerned, List.filter_nil, stored_append, concerned]
          simp
      | false =>
          have other : last ≠ .save definition := by
            rintro rfl
            simp [Request.concerns] at concerned
          rw [List.filter_cons_of_neg (by simp [concerned]), List.filter_nil, List.append_nil, ih]
          simp [other]

theorem failing_append {owed : Nat} : Failing (requests ++ [request]) owed ↔
    match request with
    | .failReads count => owed < count
    | .findAll => Failing requests (owed + 1)
    | _ => Failing requests owed := by
  constructor
  -- The last order to fail stands either in the requests before or in the one that came now.
  · rintro ⟨before, count, later, split, unset, many⟩
    rcases append_singleton_eq_split.mp split with ⟨_, rfl, rfl⟩ | ⟨rest, rfl, rfl⟩
    · simpa using many
    · have unsetRest : ∀ other, .failReads other ∉ rest :=
        fun other member => unset other (List.mem_append_left _ member)
      cases request with
      | save saved => exact ⟨before, count, rest, rfl, unsetRest, by simpa using many⟩
      | delete id => exact ⟨before, count, rest, rfl, unsetRest, by simpa using many⟩
      | findAll =>
          refine ⟨before, count, rest, rfl, unsetRest, ?_⟩
          rw [List.count_append, List.count_singleton_self] at many
          omega
      | failReads other => exact absurd (List.mem_append_right _ List.mem_cons_self) (unset other)
  · intro failing
    have later {more : Nat} (owes : Failing requests more)
        (quiet : ∀ other, request ≠ .failReads other)
        (counted : [request].count .findAll + owed = more) :
        Failing (requests ++ [request]) owed := by
      obtain ⟨before, count, rest, rfl, unset, many⟩ := owes
      refine ⟨before, count, rest ++ [request], by simp, fun other member => ?_, ?_⟩
      · rcases List.mem_append.mp member with old | new
        · exact unset other old
        · exact quiet other (List.mem_singleton.mp new).symm
      · rw [List.count_append]
        omega
    cases request with
    | save saved => exact later failing (by simp) (by simp)
    | delete id => exact later failing (by simp) (by simp)
    | findAll => exact later failing (by simp) (by simp [Nat.add_comm])
    | failReads count => exact ⟨requests, count, [], rfl, by simp, by simpa using failing⟩

namespace Backend

variable {α : Type} (backend : Backend α)

def serve (state : α) : Request → Reply × α
  | .save definition => (.done, backend.save state definition)
  | .delete id =>
    let (present, state) := backend.delete state id
    (.deleted present, state)
  | .findAll =>
    let (read, state) := backend.findAll state
    (.found read, state)
  | .failReads count => (.done, backend.failReads state count)

def after (state : α) (requests : List Request) : α :=
  requests.foldl (fun state request => (backend.serve state request).2) state

def reply (state : α) (requests : List Request) (request : Request) : Reply :=
  (backend.serve (backend.after state requests) request).1

theorem after_append (state : α) (requests : List Request) (request : Request) :
    backend.after state (requests ++ [request]) =
      (backend.serve (backend.after state requests) request).2 := by
  simp [after, List.foldl_append]

/-- What each operation makes of the definitions that are held. -/
structure Lawful (backend : Backend α) (sound : α → Prop) (held : α → List Definition) :
    Prop where
  ascending : ∀ state, sound state →
    (held state).Pairwise fun row next => row.id < next.id
  save : ∀ state definition, sound state → sound (backend.save state definition) ∧
    ∀ other, other ∈ held (backend.save state definition) ↔
      other = definition ∨ other.id ≠ definition.id ∧ other ∈ held state
  delete : ∀ state id, sound state → sound (backend.delete state id).2 ∧
    ((backend.delete state id).1 = true ↔ ∃ definition ∈ held state, definition.id = id) ∧
    ∀ other, other ∈ held (backend.delete state id).2 ↔ other.id ≠ id ∧ other ∈ held state
  findAll : ∀ state, sound state → sound (backend.findAll state).2 ∧
    held (backend.findAll state).2 = held state
  failReads : ∀ state count, sound state → sound (backend.failReads state count) ∧
    held (backend.failReads state count) = held state

variable {backend} {sound : α → Prop} {held : α → List Definition} {start : α}

/-- A store that was empty at first holds what is stored. -/
theorem Lawful.after (lawful : backend.Lawful sound held) (initial : sound start)
    (empty : held start = []) (requests : List Request) :
    sound (backend.after start requests) ∧
      ∀ definition, definition ∈ held (backend.after start requests) ↔
        Stored requests definition := by
  -- From the end, since the last request under an id decides what is stored under it.
  induction requests using List.reverseRecOn with
  | nil => exact ⟨initial, by simp [Backend.after, Stored, Since, empty]⟩
  | append_singleton requests last ih =>
      obtain ⟨before, holds⟩ := ih
      rw [after_append]
      cases last with
      | save saved =>
          obtain ⟨later, kept⟩ := lawful.save _ saved before
          refine ⟨later, fun definition => (kept definition).trans ?_⟩
          rw [holds, stored_append]
          simp only [Request.concerns, Request.save.injEq, beq_eq_false_iff_ne]
          rw [eq_comm, and_comm, ne_comm]
      | delete id =>
          obtain ⟨later, _, kept⟩ := lawful.delete _ id before
          refine ⟨later, fun definition => (kept definition).trans ?_⟩
          rw [holds, stored_append]
          simp only [Request.concerns, reduceCtorEq, false_or, beq_eq_false_iff_ne]
          rw [and_comm, ne_comm]
      | findAll =>
          obtain ⟨later, same⟩ := lawful.findAll _ before
          refine ⟨later, fun definition => ?_⟩
          rw [stored_append]
          simp [serve, same, holds, Request.concerns]
      | failReads count =>
          obtain ⟨later, same⟩ := lawful.failReads _ count before
          refine ⟨later, fun definition => ?_⟩
          rw [stored_append]
          simp [serve, same, holds, Request.concerns]

end Backend

theorem Store.lawful : Store.backend.Lawful Store.Sound Store.definitions where
  ascending _ sound := sound.definitions_ascending
  save _ _ sound := ⟨sound.save, fun _ => Store.mem_save sound⟩
  delete _ _ sound := ⟨sound.delete, sound.present_iff, fun _ => Store.mem_delete sound⟩
  findAll store sound := by
    have rows := Store.findAll_rows store
    exact ⟨⟨rows ▸ sound.ascending, rows ▸ sound.keyed⟩, congrArg Rows.values rows⟩
  failReads _ _ sound := ⟨⟨sound.ascending, sound.keyed⟩, rfl⟩

theorem Table.lawful : Table.backend.Lawful Table.Sound Table.selectOrdered where
  ascending _ sound := sound.selectOrdered_ascending
  save table definition sound := by
    refine ⟨sound.upsert, fun other => ?_⟩
    rw [mem_selectOrdered, mem_selectOrdered]
    exact mem_upsert
  delete table id sound := by
    refine ⟨sound.delete, ?_, fun other => ?_⟩
    · simp only [mem_selectOrdered]
      exact contains_eq_true
    · rw [mem_selectOrdered, mem_selectOrdered]
      exact mem_delete
  findAll _ sound := ⟨sound, rfl⟩
  failReads _ _ sound := ⟨sound, rfl⟩

/-- The store in memory owes as many failures as reads were made to fail and not asked for yet. -/
theorem lt_failingReads_iff {owed : Nat} :
    owed < (Store.backend.after {} requests).failingReads ↔ Failing requests owed := by
  induction requests using List.reverseRecOn generalizing owed with
  | nil => simp [Backend.after, Failing]
  | append_singleton requests last ih =>
      rw [Backend.after_append, failing_append]
      cases last with
      | save saved => exact ih
      | delete id => exact ih
      | findAll =>
          refine Iff.trans ?_ ih
          simp only [Backend.serve, Store.backend, Store.findAll]
          split <;> simp_all
      | failReads count => rfl

/-- After any requests the table answers a read with what is stored, in the order of the ids, and a
deletion with whether something is; and so does the store in memory, but for the reads that it was
made to fail. -/
theorem stores_agree (requests : List Request) :
    (∃ definitions, Table.backend.reply {} requests .findAll = .found (.ok definitions) ∧
      definitions.Pairwise (fun row next => row.id < next.id) ∧
      ∀ definition, definition ∈ definitions ↔ Stored requests definition) ∧
    (∀ id, ∃ present, Table.backend.reply {} requests (.delete id) = .deleted present ∧
      (present = true ↔ ∃ definition, definition.id = id ∧ Stored requests definition)) ∧
    (∀ request, (request = .findAll → ¬Failing requests 0) →
      Store.backend.reply {} requests request = Table.backend.reply {} requests request) ∧
    (Failing requests 0 →
      Store.backend.reply {} requests .findAll = .found (.error Store.injectedFailure)) ∧
    (∀ definition, Stored requests definition ↔
      Stored (requests.filter (·.concerns definition.id)) definition) := by
  obtain ⟨sound, holds⟩ := Store.lawful.after Store.empty_sound rfl requests
  obtain ⟨soundToo, holdsToo⟩ :=
    Table.lawful.after Table.empty_sound Table.selectOrdered_empty requests
  have same : (Store.backend.after {} requests).definitions =
      (Table.backend.after {} requests).selectOrdered :=
    eq_of_ascending (Store.lawful.ascending _ sound) (Table.lawful.ascending _ soundToo)
      fun definition => (holds definition).trans (holdsToo definition).symm
  have there (id : TaskId) (definitions : List Definition)
      (listed : ∀ definition, definition ∈ definitions ↔ Stored requests definition) :
      (∃ definition ∈ definitions, definition.id = id) ↔
        ∃ definition, definition.id = id ∧ Stored requests definition := by
    simp only [listed, and_comm]
  have memory (id : TaskId) := (Store.lawful.delete _ id sound).2.1
  have table (id : TaskId) := (Table.lawful.delete _ id soundToo).2.1
  refine ⟨⟨_, rfl, Table.lawful.ascending _ soundToo, holdsToo⟩,
    fun id => ⟨_, rfl, (table id).trans (there id _ holdsToo)⟩, ?_, ?_,
    fun definition => stored_filter.symm⟩
  · intro request whole
    cases request with
    | save saved => rfl
    | delete id =>
        refine congrArg Reply.deleted (Bool.eq_iff_iff.mpr ((memory id).trans ?_))
        rw [same]
        exact (table id).symm
    | findAll =>
        have unfailing : (Store.backend.after {} requests).failingReads = 0 :=
          Nat.eq_zero_of_not_pos fun owes => whole rfl (lt_failingReads_iff.mp owes)
        refine congrArg Reply.found ?_
        change (Store.findAll _).1 = .ok _
        rw [Store.findAll, unfailing]
        exact congrArg Except.ok same
    | failReads count => rfl
  · intro failing
    obtain ⟨owed, owes⟩ := Nat.exists_eq_succ_of_ne_zero
      (Nat.ne_of_gt (lt_failingReads_iff.mpr failing))
    refine congrArg Reply.found ?_
    change (Store.findAll _).1 = _
    rw [Store.findAll, owes]

/-- Two definitions are saved and one of them again, while a read is made to fail; a third is
deleted. -/
def resaved (definition : Definition) : List Request :=
  [.save { definition with id := 2 }, .save { definition with id := -1 }, .failReads 1,
    .save { definition with id := 2, enabled := false }, .findAll, .save definition,
    .delete definition.id]

theorem resaved_stores_agree :
    let definition : Definition :=
      { id := 7, name := "sweep", cron := "* * * * *", arguments := "[]", enabled := true }
    let stored := [{ definition with id := -1 }, { definition with id := 2, enabled := false }]
    Store.backend.reply {} (resaved definition) .findAll = .found (.ok stored) ∧
      Table.backend.reply {} (resaved definition) .findAll = .found (.ok stored) ∧
      Store.backend.reply {} ((resaved definition).take 4) .findAll =
        .found (.error Store.injectedFailure) := by
  intro definition stored
  have agree := (stores_agree (resaved definition)).2.2.1 .findAll fun _ failing =>
    absurd (lt_failingReads_iff.mpr failing) (by decide)
  have fails := (stores_agree ((resaved definition).take 4)).2.2.2.1
    (lt_failingReads_iff.mp (by decide))
  exact ⟨rfl, agree.symm, fails⟩

end Rota.Schedule
