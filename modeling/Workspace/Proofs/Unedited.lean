import Workspace.Proofs.Equality
import Workspace.Proofs.Rebuild

/-! When a rebuild changes nothing. A machine taken out of a document shows absent, null and
empty fields alike; merged in again it leaves its config equal to what it was exactly if
its limit, its agents and its servers are still the ones that were shown. -/
namespace Workspace
open Machine MachineConfig Translator

/-- The machines hold the same in what a rebuild writes. -/
def Machine.ownedSame (m n : Machine) : Bool :=
  alike Json.same m.limit? n.limit? && m.agents == n.agents && m.servers.same n.servers

lemma Machine.ownedSame_refl (m : Machine) : m.ownedSame m = true := by
  simp [ownedSame, Servers.same_refl, alike_refl Json.same_refl]

namespace MachineConfig

/-- Whether there is something to write is whether the new value differs from an empty one. -/
lemma agree_mergeField {α : Type} {same : α → α → Bool} {nothing : Bool} {empty new : α}
    (h : same new empty = nothing) (old : Presence α) :
    (mergeField false nothing old new).agree same old = same new (old.get?.getD empty) := by
  cases old with
  | absent | null =>
    cases nothing <;> simp [mergeField, Presence.agree, Presence.isSet, Presence.get?, h]
  | set a => simp [mergeField, Presence.agree, Presence.isSet, Presence.get?]

lemma agree_withLimit {a : Dict Json} {stored : Option Json} :
    (withLimit a stored).agree Json.same a = alike Json.same stored (a.get? limitKey) := by
  rw [Bool.eq_iff_iff, Chain.agree_iff]
  constructor
  · intro h
    simpa [get?_withLimit] using h limitKey
  · intro h k
    rw [get?_withLimit]
    by_cases hk : k = limitKey
    · simpa [hk] using h
    · simpa [hk] using alike_refl Json.same_refl (a.get? k)

lemma agree_mergeLimit (old : Presence (Dict Json)) (stored : Option Json) :
    (mergeLimit old stored).agree (Chain.agree Json.same) old =
      alike Json.same stored ((old.get?.getD .empty).get? limitKey) := by
  cases old with
  | absent | null => cases stored <;> rfl
  | set a =>
    rw [← agree_withLimit]
    cases stored <;> rfl

lemma agents_beq_eq_agree (p q : Presence Agents) : (p == q) = p.agree BEq.beq q := by
  cases p <;> cases q <;> simp [Presence.agree]

lemma merge_same (recipe : Recipe) (name : String) (c : MachineConfig) (m : Machine) :
    (merge (some c) m).same c = m.ownedSame (machineOf recipe name c) := by
  have limit : (merge (some c) m).attributes.agree (Chain.agree Json.same) c.attributes =
      alike Json.same m.limit? (machineOf recipe name c).limit? :=
    agree_mergeLimit c.attributes m.limit?
  have agents : ((merge (some c) m).agents == c.agents) =
      (m.agents == (machineOf recipe name c).agents) := by
    have nothing : (m.agents == []) = m.agents.isEmpty := by cases m.agents <;> rfl
    rw [agents_beq_eq_agree]
    exact agree_mergeField nothing c.agents
  have servers : (merge (some c) m).servers.agree Servers.same c.servers =
      m.servers.same (machineOf recipe name c).servers := by
    have nothing : m.servers.same .empty = m.servers.isEmpty := by cases m.servers <;> rfl
    exact agree_mergeField nothing c.servers
  have extra : (merge (some c) m).extra.agree Json.same c.extra = true :=
    Chain.agree_refl Json.same_refl c.extra
  rw [MachineConfig.same, limit, agents, servers, extra, Bool.and_true, ownedSame]

end MachineConfig

lemma rebuild_same {e : Environment} {machines : List Machine} :
    (e.rebuild machines).same e = true ↔ ∀ name, alike MachineConfig.same
      (mergeAll (e.machines.get? name) (named name machines)) (e.machines.get? name) = true := by
  simp only [Environment.same, Environment.rebuild_recipe, Environment.rebuild_extra,
    Environment.rebuild_machinesForm, Environment.get?_rebuild, Recipe.same_refl,
    Chain.agree_refl Json.same_refl, Chain.agree_iff, beq_self_eq_true, Bool.and_true,
    Bool.true_and]

/-- One machine of a name leaves the config of the name as it is just if there is one and
the machine is owned the same as the one taken out of it. -/
lemma alike_mergeAll_singleton {e : Environment} {m : Machine} :
    alike MachineConfig.same (mergeAll (e.machines.get? m.name) [m])
        (e.machines.get? m.name) = true ↔
      ∃ n ∈ imageMachines e, n.name = m.name ∧ m.ownedSame n = true := by
  constructor
  · intro h
    cases hc : e.machines.get? m.name with
    | none => rw [hc] at h; cases h
    | some c =>
      rw [hc] at h
      refine ⟨machineOf e.recipe m.name c, mem_imageMachines.mpr ⟨c, hc, rfl⟩, rfl, ?_⟩
      rw [← merge_same]
      exact h
  · rintro ⟨n, hn, name, owned⟩
    obtain ⟨c, hc, shown⟩ := mem_imageMachines.mp hn
    rw [← shown, ← merge_same] at owned
    rw [← name, hc]
    exact owned

/-- A rebuild with machines of different names changes nothing just if each is one of the
document's and owned the same; with machines as they were taken out it changes nothing. -/
theorem rebuild_same_iff (dev : DevAgents) (e : Environment) :
    let read := (dockerImage dev).machines e
    (∀ machines : List Machine, (machines.map Machine.name).Nodup →
      ((e.rebuild machines).same e = true ↔
        ∀ m ∈ machines, ∃ n ∈ read, n.name = m.name ∧ m.ownedSame n = true)) ∧
    ∀ machines, machines.Sublist read → (e.rebuild machines).same e = true := by
  have edited (machines : List Machine) (distinct : (machines.map Machine.name).Nodup) :
      (e.rebuild machines).same e = true ↔
        ∀ m ∈ machines, ∃ n ∈ imageMachines e, n.name = m.name ∧ m.ownedSame n = true := by
    rw [rebuild_same]
    constructor
    · intro h m hm
      have one := h m.name
      rw [named_of_mem distinct hm] at one
      exact alike_mergeAll_singleton.mp one
    · intro h name
      by_cases there : ∃ m ∈ machines, m.name = name
      · obtain ⟨m, hm, rfl⟩ := there
        rw [named_of_mem distinct hm]
        exact alike_mergeAll_singleton.mpr (h m hm)
      · rw [named_eq_nil.mpr fun m hm same => there ⟨m, hm, same⟩]
        exact alike_refl MachineConfig.same_refl _
  refine ⟨edited, fun machines sub => ?_⟩
  have distinct := (nodup_imageMachines e).sublist (sub.map _)
  refine (edited machines distinct).mpr fun m hm => ?_
  exact ⟨m, sub.subset hm, rfl, ownedSame_refl m⟩

/-- An attribute that is not the limit may be edited, over null attributes too; an agent
may not. -/
theorem rebuild_same_iff_null :
    let recipe : Recipe := ⟨.dockerImage, .absent, .empty⟩
    let e := (Environment.new recipe).insertMachine "web" ⟨.null, .absent, .set .empty, .empty⟩
    let renamed : Machine :=
      { Machine.new "web" recipe with attributes := Dict.empty.insert "team" (.string "core") }
    let installed : Machine := { Machine.new "web" recipe with agents := ["ssh"] }
    (e.rebuild [renamed]).same e = true ∧ (e.rebuild [installed]).same e = false := by
  intro recipe e renamed installed
  obtain ⟨edited, _⟩ := rebuild_same_iff .default e
  have shown : (dockerImage .default).machines e = [Machine.new "web" recipe] := rfl
  rw [shown] at edited
  constructor
  · refine (edited [renamed] (by simp)).mpr fun m hm => ?_
    obtain rfl := List.mem_singleton.mp hm
    exact ⟨Machine.new "web" recipe, List.mem_singleton_self _, rfl, rfl⟩
  · rw [Bool.eq_false_iff]
    intro same
    obtain ⟨n, hn, _, owned⟩ := (edited [installed] (by simp)).mp same installed (by simp)
    obtain rfl := List.mem_singleton.mp hn
    cases owned

end Workspace
