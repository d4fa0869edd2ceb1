import Workspace.Environment
import Workspace.Proofs.Shape

/-! Which values a document and its parts may be made of, read off their shapes. -/
namespace Workspace
open Json

lemma fits_object {v : Json} : Fits v .object ↔ ∃ m : Dict Json, v = .object m := by
  simp only [Shape.object, fits_dict, fits_any, implies_true, and_true]

lemma fits_agents {v : Json} :
    Fits v Agents.shape ↔ ∃ items, v = .list items ∧ ∀ x ∈ items, ∃ s, x = .string s := by
  simp only [Agents.shape, fits_list, fits_string]

lemma fits_servers {v : Json} :
    Fits v Servers.shape ↔
      ∃ m : Dict Json, v = .object m ∧
        ∀ k x, m.get? k = some x → ∃ s : Dict Json, x = .object s := by
  simp only [Servers.shape, Server.shape, fits_dict, fits_object]

lemma fits_recipe {v : Json} :
    Fits v Recipe.shape ↔ ∃ m : Dict Json, v = .object m ∧
      (∃ s, m.get? "type" = some (.string s)) ∧
      ∀ x, m.get? "location" = some x → x ≠ .null → ∃ s, x = .string s := by
  rw [Recipe.shape, fits_extensible (by decide)]
  simp only [List.forall_mem_cons, List.not_mem_nil, false_implies, implies_true, and_true,
    suits_required, suits_nullable, fits_string]
  apply exists_congr
  intro m
  have type : (∃ v, m.get? "type" = some v ∧ ∃ s, v = .string s) ↔
      ∃ s, m.get? "type" = some (.string s) := by
    constructor
    · rintro ⟨_, h, s, rfl⟩
      exact ⟨s, h⟩
    · rintro ⟨s, h⟩
      exact ⟨_, h, s, rfl⟩
  rw [type]

lemma fits_config {v : Json} :
    Fits v MachineConfig.shape ↔ ∃ m : Dict Json, v = .object m ∧
      (∀ x, m.get? "attributes" = some x → x ≠ .null → ∃ a : Dict Json, x = .object a) ∧
      (∀ x, m.get? "agents" = some x → x ≠ .null → Fits x Agents.shape) ∧
      ∀ x, m.get? "servers" = some x → x ≠ .null → Fits x Servers.shape := by
  rw [MachineConfig.shape, fits_extensible (by decide)]
  simp only [List.forall_mem_cons, List.not_mem_nil, false_implies, implies_true, and_true,
    suits_nullable, fits_object]

lemma fits_environment {v : Json} :
    Fits v Environment.shape ↔ ∃ m : Dict Json, v = .object m ∧
      (∃ r, m.get? "recipe" = some r ∧ Fits r Recipe.shape) ∧
      ∀ x, m.get? "machines" = some x → x ≠ .null →
        ∃ machines : Dict Json, x = .object machines ∧
          ∀ name c, machines.get? name = some c → Fits c MachineConfig.shape := by
  rw [Environment.shape, fits_extensible (by decide)]
  simp only [List.forall_mem_cons, List.not_mem_nil, false_implies, implies_true, and_true,
    suits_required, suits_nullable, fits_dict]

end Workspace
