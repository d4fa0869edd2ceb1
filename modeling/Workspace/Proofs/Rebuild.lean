import Mathlib.Tactic.Common
import Workspace.Dict.Lemmas
import Workspace.Translator

/-! What a rebuild does to the config of one name: the machines of that name are merged
into it one after the other, and no other machine has a say. What a step writes, and what
it keeps, is stated of single merges and carried over runs of them. -/
namespace Workspace

namespace Machine

/-- The machines of a name, in their order. -/
def named (name : String) (machines : List Machine) : List Machine :=
  machines.filter fun m => m.name == name

/-- The limit as it is stored. -/
def limit? (m : Machine) : Option Json := m.attributes.get? limitKey

/-- Attributes with this limit, or with none. -/
def withLimit (attributes : Dict Json) (limit? : Option Json) : Dict Json :=
  match limit? with
  | some limit => attributes.insert limitKey limit
  | none => attributes.erase limitKey

lemma mem_named {name : String} {machines : List Machine} {m : Machine} :
    m ∈ named name machines ↔ m ∈ machines ∧ m.name = name := by
  simp [named]

lemma named_eq_nil {name : String} {machines : List Machine} :
    named name machines = [] ↔ ∀ m ∈ machines, m.name ≠ name := by
  simp [named]

lemma named_of_mem {machines : List Machine} (distinct : (machines.map Machine.name).Nodup)
    {m : Machine} (h : m ∈ machines) : named m.name machines = [m] :=
  filter_eq_singleton distinct h

lemma named_cons (name : String) (m : Machine) (machines : List Machine) :
    named name (m :: machines) =
      if m.name = name then m :: named name machines else named name machines := by
  simp [named, List.filter_cons]

lemma get?_withLimit (attributes : Dict Json) (limit? : Option Json) (k : String) :
    (withLimit attributes limit?).get? k =
      if k = limitKey then limit? else attributes.get? k := by
  cases limit? with
  | none => exact Chain.get?_erase attributes limitKey k
  | some limit => exact Dict.get?_insert attributes limitKey limit k

/-- Attributes that differ in the limit only are the same with a limit of one's own. -/
lemma withLimit_congr {a b : Dict Json} (h : ∀ k ≠ limitKey, a.get? k = b.get? k)
    (limit? : Option Json) : withLimit a limit? = withLimit b limit? := by
  apply Chain.ext_get?
  intro k
  rw [get?_withLimit, get?_withLimit]
  by_cases hk : k = limitKey
  · simp [hk]
  · simp [hk, h k hk]

end Machine

open Machine

namespace MachineConfig

/-- The attributes of a config, if there is one; none where they are absent or null. -/
def attributesOf (config? : Option MachineConfig) : Dict Json :=
  (config?.bind fun c => c.attributes.get?).getD .empty

/-- Machines merged one after the other into a config, or into none. -/
def mergeAll (config? : Option MachineConfig) (machines : List Machine) : Option MachineConfig :=
  machines.foldl (fun c m => some (merge c m)) config?

/-! One merge. -/

lemma get?_mergeLimit (old : Presence (Dict Json)) (stored : Option Json) :
    (mergeLimit old stored).get?.getD .empty = withLimit (old.get?.getD .empty) stored := by
  cases stored with
  | none => cases old <;> rfl
  | some limit => rfl

lemma attributesOf_merge (config? : Option MachineConfig) (m : Machine) :
    attributesOf (some (merge config? m)) = withLimit (attributesOf config?) m.limit? := by
  have old : (config?.getD .blank).attributes.get?.getD .empty = attributesOf config? := by
    cases config? <;> rfl
  rw [← old]
  exact get?_mergeLimit _ _

lemma get?_mergeField {α : Type} {created nothing : Bool} {old : Presence α} {empty new : α}
    (h : nothing = true → new = empty) :
    (mergeField created nothing old new).get?.getD empty = new := by
  unfold mergeField
  split
  · rfl
  · rename_i kept
    simp only [Bool.or_eq_true, Bool.not_eq_true', not_or, Bool.not_eq_false] at kept
    obtain ⟨⟨_, hnothing⟩, unset⟩ := kept
    cases old with
    | set a => exact absurd rfl unset
    | absent | null => exact (h hnothing).symm

/-- The machine that a merged config stands for is the last one merged, but for
attributes that are not the limit. -/
lemma machineOf_merge (recipe : Recipe) (config? : Option MachineConfig) (m : Machine) :
    Translator.machineOf recipe m.name (merge config? m) =
      { m with recipe, attributes := withLimit (attributesOf config?) m.limit? } := by
  have agents : (merge config? m).agents.get?.getD [] = m.agents :=
    get?_mergeField List.isEmpty_iff.mp
  have servers : (merge config? m).servers.get?.getD .empty = m.servers :=
    get?_mergeField Chain.isEmpty_iff.mp
  have attributes := attributesOf_merge config? m
  rw [Translator.machineOf, agents, servers, ← attributes]
  rfl

/-! Runs of merges. -/

lemma mergeAll_cons (config? : Option MachineConfig) (m : Machine) (machines : List Machine) :
    mergeAll config? (m :: machines) = mergeAll (some (merge config? m)) machines := rfl

lemma mergeAll_concat (config? : Option MachineConfig) (machines : List Machine) (m : Machine) :
    mergeAll config? (machines ++ [m]) = some (merge (mergeAll config? machines) m) := by
  simp [mergeAll]

lemma mergeAll_eq_none {config? : Option MachineConfig} {machines : List Machine} :
    mergeAll config? machines = none ↔ config? = none ∧ machines = [] := by
  induction machines generalizing config? with
  | nil => simp [mergeAll]
  | cons m machines ih => simp [mergeAll_cons, ih]

lemma attributesOf_mergeAll (config? : Option MachineConfig) (machines : List Machine)
    {k : String} (h : k ≠ limitKey) :
    (attributesOf (mergeAll config? machines)).get? k = (attributesOf config?).get? k := by
  induction machines generalizing config? with
  | nil => rfl
  | cons m machines ih => rw [mergeAll_cons, ih, attributesOf_merge, get?_withLimit, if_neg h]

end MachineConfig

open MachineConfig

namespace Environment

lemma get?_mergeMachine (e : Environment) (m : Machine) (name : String) :
    (e.mergeMachine m).machines.get? name =
      if m.name = name then some (merge (e.machines.get? name) m) else e.machines.get? name := by
  simp only [mergeMachine, Dict.get?_insert]
  by_cases h : m.name = name
  · simp [h]
  · simp [h, Ne.symm h]

/-- After a rebuild a name has the config it had, with the machines of the name merged in. -/
lemma get?_rebuild (e : Environment) (machines : List Machine) (name : String) :
    (e.rebuild machines).machines.get? name =
      mergeAll (e.machines.get? name) (named name machines) := by
  induction machines generalizing e with
  | nil => rfl
  | cons m machines ih =>
    have step : (e.rebuild (m :: machines)) = (e.mergeMachine m).rebuild machines := rfl
    rw [step, ih, get?_mergeMachine, named_cons]
    split
    · rfl
    · rfl

/-- All but the machines stays. -/
lemma rebuild_eq (e : Environment) (machines : List Machine) :
    e.rebuild machines = { e with machines := (e.rebuild machines).machines } := by
  induction machines generalizing e with
  | nil => rfl
  | cons m machines ih => exact ih (e.mergeMachine m)

lemma rebuild_recipe (e : Environment) (machines : List Machine) :
    (e.rebuild machines).recipe = e.recipe := by
  rw [rebuild_eq]

lemma rebuild_extra (e : Environment) (machines : List Machine) :
    (e.rebuild machines).extra = e.extra := by
  rw [rebuild_eq]

lemma rebuild_machinesForm (e : Environment) (machines : List Machine) :
    (e.rebuild machines).machinesForm = e.machinesForm := by
  rw [rebuild_eq]

lemma mem_names {e : Environment} {name : String} :
    name ∈ e.names ↔ e.machines.get? name ≠ none := by
  simp [names, Chain.keys, Chain.mem_toList, Option.ne_none_iff_exists']

lemma mem_names_rebuild {e : Environment} {machines : List Machine} {name : String} :
    name ∈ (e.rebuild machines).names ↔ name ∈ e.names ∨ ∃ m ∈ machines, m.name = name := by
  rw [mem_names, mem_names, get?_rebuild, Ne, mergeAll_eq_none, named_eq_nil]
  by_cases h : e.machines.get? name = none <;> simp [h]

end Environment

namespace Translator

lemma mem_imageMachines {e : Environment} {m : Machine} :
    m ∈ imageMachines e ↔
      ∃ c, e.machines.get? m.name = some c ∧ machineOf e.recipe m.name c = m := by
  simp only [imageMachines, List.mem_map, Prod.exists, Chain.mem_toList]
  constructor
  · rintro ⟨name, c, hc, rfl⟩
    exact ⟨c, hc, rfl⟩
  · rintro ⟨c, hc, hm⟩
    exact ⟨m.name, c, hc, hm⟩

lemma pairwise_imageMachines (e : Environment) :
    (imageMachines e).Pairwise fun m n => m.name < n.name :=
  List.pairwise_map.mpr (Chain.pairwise_toList e.machines)

lemma nodup_imageMachines (e : Environment) : ((imageMachines e).map Machine.name).Nodup :=
  List.pairwise_map.mpr ((pairwise_imageMachines e).imp Std.ne_of_lt)

lemma exists_imageMachines {e : Environment} {name : String} :
    (∃ m ∈ imageMachines e, m.name = name) ↔ name ∈ e.names := by
  simp [imageMachines, Environment.names, Chain.keys, machineOf]

end Translator

end Workspace
