import Mathlib.Data.List.Induction

/-!
Runs of a system, as lists of its steps, and what can be said of such lists from their ends.
-/

namespace Rota

/-- Whatever holds at the start and is kept by each step of a run holds at its end. -/
theorem run_induction {α β : Type} {step : α → β → Option α} {holds : α → Prop} {items : List β}
    (kept : ∀ item ∈ items, ∀ state next, step state item = some next → holds state → holds next)
    {first last : α} (ran : items.foldlM step first = some last) (initial : holds first) :
    holds last := by
  induction items generalizing first with
  | nil =>
      simp only [List.foldlM_nil, pure, Option.some.injEq] at ran
      exact ran ▸ initial
  | cons item items ih =>
      simp only [List.foldlM_cons, bind, Option.bind_eq_some_iff] at ran
      obtain ⟨next, stepped, ran⟩ := ran
      apply ih (fun later member => kept later (List.mem_cons_of_mem _ member)) ran
      exact kept item List.mem_cons_self first next stepped initial

/-- Whatever holds at the start, and with each step of what has been run so far, holds in the end of
the whole run. -/
theorem history_induction {α β : Type} {step : α → β → Option α} {first last : α}
    {holds : List β → α → Prop} {items : List β}
    (kept : ∀ items item state next, items.foldlM step first = some state →
      step state item = some next → holds items state → holds (items ++ [item]) next)
    (ran : items.foldlM step first = some last) (initial : holds [] first) : holds items last := by
  induction items using List.reverseRecOn generalizing last with
  | nil =>
      simp only [List.foldlM_nil, pure, Option.some.injEq] at ran
      exact ran ▸ initial
  | append_singleton items item ih =>
      simp only [List.foldlM_append, List.foldlM_cons, List.foldlM_nil, bind, pure,
        Option.bind_eq_some_iff, Option.some.injEq] at ran
      obtain ⟨state, ran, next, stepped, rfl⟩ := ran
      exact kept items item state next ran stepped (ih ran)

section

variable {α : Type} {items before after : List α} {item last : α}

theorem append_singleton_eq_split : items ++ [last] = before ++ item :: after ↔
    items = before ∧ last = item ∧ after = [] ∨
      ∃ rest, after = rest ++ [last] ∧ items = before ++ item :: rest := by
  constructor
  · intro split
    rcases List.eq_nil_or_concat after with rfl | ⟨rest, final, rfl⟩
    · obtain ⟨same, final⟩ := List.append_inj' split rfl
      exact .inl ⟨same, List.head_eq_of_cons_eq final, rfl⟩
    · rw [List.concat_eq_append, ← List.cons_append, ← List.append_assoc] at split
      obtain ⟨same, final⟩ := List.append_inj' split rfl
      obtain rfl := List.head_eq_of_cons_eq final
      exact .inr ⟨rest, List.concat_eq_append, same⟩
  · rintro (⟨rfl, rfl, rfl⟩ | ⟨rest, rfl, rfl⟩)
    · rfl
    · simp

/-- An event came up, and everything after it has kept to a condition. -/
def Since (event kept : α → Prop) (items : List α) : Prop :=
  ∃ before item after, items = before ++ item :: after ∧ event item ∧ ∀ later ∈ after, kept later

variable {event kept : α → Prop}

theorem since_append : Since event kept (items ++ [last]) ↔
    event last ∨ Since event kept items ∧ kept last := by
  constructor
  · rintro ⟨before, item, after, split, came, since⟩
    rcases append_singleton_eq_split.mp split with ⟨_, rfl, _⟩ | ⟨rest, rfl, rfl⟩
    · exact .inl came
    · refine .inr ⟨⟨before, item, rest, rfl, came, ?_⟩, ?_⟩
      · exact fun later member => since later (List.mem_append_left _ member)
      · exact since last (List.mem_append_right _ List.mem_cons_self)
  · rintro (came | ⟨⟨before, item, rest, rfl, came, since⟩, keeps⟩)
    · exact ⟨items, last, [], rfl, came, by simp⟩
    · refine ⟨before, item, rest ++ [last], by simp, came, ?_⟩
      intro later member
      rcases List.mem_append.mp member with old | new
      · exact since later old
      · rw [List.mem_singleton.mp new]
        exact keeps

end

end Rota
