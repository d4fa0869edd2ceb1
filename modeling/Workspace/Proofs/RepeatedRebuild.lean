import Workspace.Proofs.LastWrite

/-! Rebuilding again with the same machines. The second rebuild takes other branches than the
first: no machine is new to it, and fields that were absent or null may be set by then. But a field
that any of the machines writes is set after the first rebuild, and holds what the last of them
says; and one that none of them writes is left alone by both. -/
namespace Workspace
open Machine MachineConfig Translator

namespace Presence
variable {α : Type} {p q r : Presence α} {A : Prop} {empty : α}

/-- A field is set by then, unless there was nothing to write. -/
lemma Follows.isSet_or (h : p.Follows A q) : q.isSet = true ∨ A := by
  by_cases nothing : A
  · exact Or.inr nothing
  · exact Or.inl (h.set (Or.inr nothing))

/-- Writes that end with the value there was leave a field as it was, if they find it set or
have nothing to write. -/
lemma Follows.eq_of_isSet_or (h : q.Follows A r) (found : q.isSet = true ∨ A)
    (value : r.get?.getD empty = q.get?.getD empty) : r = q := by
  by_cases hq : q.isSet = true
  · exact eq_of_isSet (h.set (Or.inl hq)) hq value
  · exact (h.unset (by simpa using hq)).mpr (found.resolve_left hq)

end Presence

namespace MachineConfig
variable {c d f : MachineConfig} {machines : List Machine} {recipe : Recipe} {name : String}

/-- Every field that the machines write is set. -/
structure Settled (d : MachineConfig) (machines : List Machine) : Prop where
  attributes : d.attributes.isSet = true ∨ ∀ m ∈ machines, m.limit? = none
  agents : d.agents.isSet = true ∨ ∀ m ∈ machines, m.agents = []
  servers : d.servers.isSet = true ∨ ∀ m ∈ machines, m.servers = .empty

lemma Kept.settled (h : Kept c machines d) : Settled d machines :=
  ⟨h.attributes.isSet_or, h.agents.isSet_or, h.servers.isSet_or⟩

lemma Fresh.settled (h : Fresh d) (machines : List Machine) : Settled d machines := by
  obtain ⟨a, attributes, _⟩ := h.attributes
  refine ⟨Or.inl ?_, Or.inl h.agents, Or.inl h.servers⟩
  rw [attributes]
  rfl

/-- Machines that are merged into a config they have settled leave it, if it reads the same. -/
lemma Settled.eq_of_kept (settled : Settled d machines) (again : Kept d machines f)
    (view : machineOf recipe name f = machineOf recipe name d) : f = d := by
  have attributes : f.attributes = d.attributes :=
    again.attributes.eq_of_isSet_or settled.attributes (congrArg Machine.attributes view)
  have agents : f.agents = d.agents :=
    again.agents.eq_of_isSet_or settled.agents (congrArg Machine.agents view)
  have servers : f.servers = d.servers :=
    again.servers.eq_of_isSet_or settled.servers (congrArg Machine.servers view)
  calc f = ⟨f.attributes, f.agents, f.servers, f.extra⟩ := rfl
    _ = ⟨d.attributes, d.agents, d.servers, d.extra⟩ := by
      rw [attributes, agents, servers, again.extra]

end MachineConfig

namespace Environment
variable {e : Environment} {machines : List Machine} {name : String} {d : MachineConfig}

/-- A rebuild settles the configs of the names it has machines for, old ones and new ones. -/
lemma settled_rebuild (hd : (e.rebuild machines).machines.get? name = some d) :
    Settled d (named name machines) := by
  rw [get?_rebuild] at hd
  cases hc : e.machines.get? name with
  | none =>
    rw [hc] at hd
    exact (fresh_mergeAll hd).settled _
  | some c =>
    rw [hc] at hd
    obtain ⟨d', hd', kept⟩ := exists_kept_mergeAll c (named name machines)
    obtain rfl : d' = d := Option.some.inj (hd'.symm.trans hd)
    exact kept.settled

lemma get?_rebuild_rebuild (e : Environment) (machines : List Machine) (name : String) :
    ((e.rebuild machines).rebuild machines).machines.get? name =
      (e.rebuild machines).machines.get? name := by
  by_cases never : named name machines = []
  · rw [get?_rebuild (e.rebuild machines), never]
    rfl
  · obtain ⟨d, hd⟩ : ∃ d, (e.rebuild machines).machines.get? name = some d := by
      refine Option.ne_none_iff_exists'.mp ?_
      rw [get?_rebuild]
      exact fun none => never (mergeAll_eq_none.mp none).2
    obtain ⟨f, hf, again⟩ := exists_kept_mergeAll d (named name machines)
    have both : ((e.rebuild machines).rebuild machines).machines.get? name = some f := by
      rw [get?_rebuild, hd, hf]
    have joined := both
    rw [← rebuild_append] at joined
    have view := machineOf_rebuild_append never joined hd
    rw [both, hd, (settled_rebuild hd).eq_of_kept again view]

/-- The same machines, with names repeated or new as they may be, change a document once. The
two documents are equal in every part: the remembered form of the machines and the signs of zeros
included. -/
theorem rebuild_rebuild (e : Environment) (machines : List Machine) :
    (e.rebuild machines).rebuild machines = e.rebuild machines := by
  have entries : ((e.rebuild machines).rebuild machines).machines =
      (e.rebuild machines).machines :=
    Chain.ext_get? (get?_rebuild_rebuild e machines)
  calc (e.rebuild machines).rebuild machines
      = { e.rebuild machines with
          machines := ((e.rebuild machines).rebuild machines).machines } := rebuild_eq ..
    _ = e.rebuild machines := by rw [entries]

end Environment
end Workspace
