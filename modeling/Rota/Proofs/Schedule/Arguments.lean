import Rota.Proofs.Json.RoundTrip
import Rota.Replica

/-!
The arguments of stored tasks, kept as a text. Main statement: the text gives back the list that it
was made of whenever the definition is read, and no list at all if it nests too deep.
-/

namespace Rota.Schedule

/-- What was stored is read back, by a caller and by the entry when it fires, up to 127 levels of
arrays and objects; below that every reading breaks off with a syntax error. -/
theorem stored_arguments_round_trip (id : TaskId) (name cron : String) {values : List Json}
    (plain : ∀ value ∈ values, value.Plain) :
    let definition := Definition.ofValues id name cron values
    let depth := (Json.array values).depth
    (depth ≤ 127 → definition.decodeArguments = .ok values) ∧
    (127 < depth → ∃ fault, definition.decodeArguments = .error fault ∧
      fault.category = "syntax") ∧
    ∀ (replica : Replica) (firing : Firing Duty),
      replica.perform { firing with duty := .task definition } =
        if replica.roster.gated && !replica.isLeader then replica
        else if depth ≤ 127 then (replica.dispatch name values).2
        else replica.note (.argumentsUnreadable id name) := by
  intro definition depth
  have read : definition.decodeArguments =
      if depth ≤ 127 then .ok values else .error .malformed := Json.parseList_listText plain
  refine ⟨fun fits => ?_, fun deep => ⟨.malformed, ?_, rfl⟩, fun replica firing => ?_⟩
  · rw [read, if_pos fits]
  · rw [read, if_neg (Nat.not_le_of_lt deep)]
  · simp only [Replica.perform, Definition.verdict, read]
    by_cases closed : (replica.roster.gated && !replica.isLeader) = true
    · simp only [closed, if_true]
    · simp only [closed]
      by_cases fits : depth ≤ 127
      · simp only [fits, if_true]
        rfl
      · simp only [fits, if_false]
        rfl

/-- A list that holds as many arrays inside each other as are given. -/
def nest : Nat → List Json
  | 0 => []
  | levels + 1 => [.array (nest levels)]

theorem depth_nest (levels : Nat) : (Json.array (nest levels)).depth = levels + 1 := by
  induction levels with
  | zero => rfl
  | succ levels ih =>
      rw [nest, Json.depth, Json.depthOfItems, Json.depthOfItems, ih, Nat.max_eq_left]
      exact Nat.zero_le _

theorem plain_nest (levels : Nat) : ∀ value ∈ nest levels, value.Plain := by
  induction levels with
  | zero => simp [nest]
  | succ levels ih => simpa [nest] using .array ih

/-- Quotes, controls, a character beyond 16 bits, keys in any order and the outermost integers. -/
def intricate : List Json :=
  [.ofMembers [("📅\"\\", .integer 18446744073709551615), ("", .array [.null, .bool true])],
    .integer (-9223372036854775808), .string "\n\u0001\x7fé"]

theorem plain_intricate : ∀ value ∈ intricate, value.Plain := by
  simp only [intricate, List.forall_mem_cons, List.not_mem_nil, false_implies, implies_true,
    and_true]
  refine ⟨.ofMembers ?_, .integer ⟨by decide, by decide⟩, .string _⟩
  simp only [List.forall_mem_cons, List.not_mem_nil, false_implies, implies_true, and_true]
  exact ⟨.integer ⟨by decide, by decide⟩, .array (by simp [Json.Plain.null, Json.Plain.bool])⟩

/-- All 127 levels come back; of 128 levels nothing does. -/
theorem intricate_arguments_return :
    (∀ value ∈ intricate ++ nest 126, value.Plain) ∧
      (Definition.ofValues 1 "task" "* * * * *" (intricate ++ nest 126)).decodeArguments =
        .ok (intricate ++ nest 126) ∧
      (∀ value ∈ nest 127, value.Plain) ∧
      ∃ fault, (Definition.ofValues 1 "task" "* * * * *" (nest 127)).decodeArguments =
        .error fault ∧ fault.category = "syntax" := by
  have plain : ∀ value ∈ intricate ++ nest 126, value.Plain := fun value member =>
    (List.mem_append.mp member).elim (plain_intricate value) (plain_nest 126 value)
  refine ⟨plain, (stored_arguments_round_trip 1 "task" "* * * * *" plain).1 ?_, plain_nest 127,
    (stored_arguments_round_trip 1 "task" "* * * * *" (plain_nest 127)).2.1 ?_⟩
  · have deepest : Json.depthOfItems (nest 126) + 1 = 127 := depth_nest 126
    have shallow : Json.depthOfItems (intricate ++ nest 126) =
        max 2 (max 0 (max 0 (Json.depthOfItems (nest 126)))) := rfl
    rw [Json.depth, shallow]
    omega
  · rw [depth_nest]
    decide

end Rota.Schedule
