import Workspace.Proofs.ByteOrder
import Workspace.Proofs.Rebuild

/-! What is written is what is read back. The machines of a rebuilt document are those it
had and those that were merged in, each once and in the order of the bytes of the name.
Whatever was merged under a name before, its last machine alone is seen. -/
namespace Workspace
open Machine MachineConfig Translator

/-- A name with machines merged in reads as the last of them. -/
lemma machineOf_rebuild {e : Environment} {machines : List Machine} {name : String}
    {last : Machine} {d : MachineConfig}
    (hd : (e.rebuild machines).machines.get? name = some d)
    (hlast : (named name machines).getLast? = some last) :
    let m := machineOf e.recipe name d
    m.agents = last.agents ∧ m.servers = last.servers ∧
      m.attributes = withLimit (attributesOf (e.machines.get? name)) last.limit? := by
  obtain ⟨before, split⟩ := List.getLast?_eq_some_iff.mp hlast
  obtain rfl : last.name = name := (mem_named.mp (List.mem_of_getLast? hlast)).2
  rw [Environment.get?_rebuild, split, mergeAll_concat, Option.some.injEq] at hd
  -- The merges before the last one may differ from the document in the limit only.
  have earlier := withLimit_congr
    (fun _ => attributesOf_mergeAll (e.machines.get? last.name) before) last.limit?
  rw [← hd, machineOf_merge, earlier]
  exact ⟨rfl, rfl, rfl⟩

/-- The machines of a rebuilt document: order, names, and what each of them holds. -/
theorem machines_rebuild (dev : DevAgents) (e : Environment) (machines : List Machine) :
    let read := (dockerImage dev).machines
    let r := read (e.rebuild machines)
    (r.Pairwise fun m n => Text.utf8 m.name < Text.utf8 n.name) ∧
    (∀ name, (∃ m ∈ r, m.name = name) ↔ name ∈ e.names ∨ ∃ m ∈ machines, m.name = name) ∧
    (∀ m ∈ r, m.recipe = e.recipe) ∧
    (∀ m ∈ r, ∀ last, (named m.name machines).getLast? = some last →
      m.agents = last.agents ∧ m.servers = last.servers ∧
      m.attributes = withLimit (attributesOf (e.machines.get? m.name)) last.limit?) ∧
    (∀ m ∈ r, (∀ l ∈ machines, l.name ≠ m.name) → m ∈ read e) := by
  refine ⟨?order, ?names, ?recipe, ?last, ?others⟩
  case order => exact (pairwise_imageMachines _).imp Text.utf8_lt
  case names =>
    intro name
    exact exists_imageMachines.trans Environment.mem_names_rebuild
  case recipe =>
    intro m hm
    obtain ⟨c, _, hm⟩ := mem_imageMachines.mp hm
    rw [Environment.rebuild_recipe] at hm
    exact congrArg Machine.recipe hm.symm
  case last =>
    intro m hm last hlast
    obtain ⟨d, hd, hm⟩ := mem_imageMachines.mp hm
    rw [Environment.rebuild_recipe] at hm
    have read := machineOf_rebuild hd hlast
    rwa [hm] at read
  case others =>
    intro m hm absent
    obtain ⟨c, hc, hm⟩ := mem_imageMachines.mp hm
    rw [Environment.get?_rebuild, named_eq_nil.mpr absent] at hc
    rw [Environment.rebuild_recipe] at hm
    exact mem_imageMachines.mpr ⟨c, hc, hm⟩

/-- Of two machines of one name, with another between them, the second is read: the limit
of the first is gone, the attribute of the document stays. -/
theorem machines_rebuild_repeated :
    let recipe : Recipe := ⟨.dockerImage, .absent, .empty⟩
    let web : MachineConfig :=
      ⟨.set (Dict.empty.insert "team" (.string "core")), .null, .absent, .empty⟩
    let e := (Environment.new recipe).insertMachine "web" web
    let first := (Machine.new "web" recipe).setMemoryLimit 512
    let last : Machine := { Machine.new "web" recipe with agents := ["ssh"] }
    let machines := [first, Machine.new "db" recipe, last]
    ∃ m ∈ (dockerImage .default).machines (e.rebuild machines),
      m.name = "web" ∧ m.agents = ["ssh"] ∧
        m.attributes = Dict.empty.insert "team" (.string "core") := by
  intro recipe web e first last machines
  obtain ⟨_, names, _, read, _⟩ := machines_rebuild .default e machines
  obtain ⟨m, hm, name⟩ := (names "web").mpr (Or.inr ⟨last, by simp [machines], rfl⟩)
  have seen := read m hm last (by rw [name]; rfl)
  refine ⟨m, hm, name, seen.1, ?_⟩
  rw [seen.2.2, name]
  rfl

end Workspace
