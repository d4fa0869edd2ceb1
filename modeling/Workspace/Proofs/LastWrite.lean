import Mathlib.Data.List.Sort
import Workspace.Proofs.Frame
import Workspace.Proofs.ReadBack

/-! The last rebuild decides. Where every name that was merged in before is merged in again,
the machines that are read are those of the last rebuild alone. The documents may differ in
one way: a field that the last rebuild leaves absent or null, as it has nothing to write
there, is empty if an earlier one has set it. -/
namespace Workspace
open Machine MachineConfig Translator

namespace Presence
variable {α : Type} {p q r : Presence α} {A B : Prop} {empty : α}

/-- The first is the second, but where the second is absent or null and something was written
before, the first is set to the empty value. -/
structure Emptied (empty : α) (wrote : Prop) (p q : Presence α) : Prop where
  same : q.isSet = true ∨ ¬wrote → p = q
  emptied : q.isSet = false → wrote → p = .set empty

lemma eq_of_isSet (hp : p.isSet = true) (hq : q.isSet = true)
    (value : p.get?.getD empty = q.get?.getD empty) : p = q := by
  cases p with
  | absent | null => cases hp
  | set a =>
    cases q with
    | absent | null => cases hq
    | set b => exact congrArg Presence.set value

lemma get?_of_unset (h : p.isSet = false) : p.get? = none := by
  cases p with
  | absent | null => rfl
  | set a => cases h

lemma Follows.isSet_iff (h : p.Follows B r) : r.isSet = true ↔ p.isSet = true ∨ ¬B := by
  refine ⟨fun hr => ?_, h.set⟩
  by_contra none
  rw [not_or, Bool.not_eq_true, not_not] at none
  rw [(h.unset none.1).mpr none.2, none.1] at hr
  cases hr

lemma Emptied.of_isSet (hp : p.isSet = true) (hq : q.isSet = true)
    (value : p.get?.getD empty = q.get?.getD empty) : p.Emptied empty A q := by
  refine ⟨fun _ => eq_of_isSet hp hq value, fun unset => ?_⟩
  rw [hq] at unset
  cases unset

/-- Two runs of writes from one field, the second of which is the last part of the first: if
both end with the same value, they differ only where all that was written came before. -/
lemma Follows.emptied (long : p.Follows (A ∧ B) q) (short : p.Follows B r)
    (value : q.get?.getD empty = r.get?.getD empty) : q.Emptied empty (¬A) r := by
  by_cases hr : r.isSet = true
  · have written := short.isSet_iff.mp hr
    have hq : q.isSet = true := long.set (written.imp_right fun hB both => hB both.2)
    exact .of_isSet hq hr value
  · have none := mt short.isSet_iff.mpr hr
    rw [not_or, Bool.not_eq_true, not_not] at none
    obtain ⟨hp, hB⟩ := none
    obtain rfl : r = p := (short.unset hp).mpr hB
    constructor
    · intro kept
      have hA : A := not_not.mp (kept.resolve_left hr)
      exact (long.unset hp).mpr ⟨hA, hB⟩
    · intro _ hA
      have hq : q.isSet = true := long.set (Or.inr fun both => hA both.1)
      rw [get?_of_unset hp] at value
      exact eq_of_isSet hq rfl value

end Presence

namespace MachineConfig

/-- The config of the last rebuild, with fields emptied that machines merged in before have
set. -/
structure Emptied (before : List Machine) (d c : MachineConfig) : Prop where
  extra : d.extra = c.extra
  attributes : d.attributes.Emptied .empty (∃ m ∈ before, m.limit? ≠ none) c.attributes
  agents : d.agents.Emptied [] (∃ m ∈ before, m.agents ≠ []) c.agents
  servers : d.servers.Emptied .empty (∃ m ∈ before, m.servers ≠ .empty) c.servers

variable {recipe : Recipe} {name : String} {c d f : MachineConfig} {before after : List Machine}

lemma Emptied.nil (c : MachineConfig) : Emptied [] c c where
  extra := rfl
  attributes := ⟨fun _ => rfl, by simp⟩
  agents := ⟨fun _ => rfl, by simp⟩
  servers := ⟨fun _ => rfl, by simp⟩

lemma Kept.emptied (long : Kept c (before ++ after) d) (short : Kept c after f)
    (view : machineOf recipe name d = machineOf recipe name f) : Emptied before d f := by
  have attributes := long.attributes
  have agents := long.agents
  have servers := long.servers
  simp only [List.forall_mem_append] at attributes agents servers
  refine ⟨long.extra.trans short.extra.symm, ?_, ?_, ?_⟩
  · simpa using attributes.emptied short.attributes (congrArg Machine.attributes view)
  · simpa using agents.emptied short.agents (congrArg Machine.agents view)
  · simpa using servers.emptied short.servers (congrArg Machine.servers view)

/-- Of a machine that the document lacked every field is set, whatever was merged in. -/
lemma Fresh.emptied (hd : Fresh d) (hf : Fresh f)
    (view : machineOf recipe name d = machineOf recipe name f) : Emptied before d f := by
  obtain ⟨a, ha, _⟩ := hd.attributes
  obtain ⟨b, hb, _⟩ := hf.attributes
  refine ⟨hd.extra.trans hf.extra.symm, ?_, ?_, ?_⟩
  · exact .of_isSet (by rw [ha]; rfl) (by rw [hb]; rfl) (congrArg Machine.attributes view)
  · exact .of_isSet hd.agents hf.agents (congrArg Machine.agents view)
  · exact .of_isSet hd.servers hf.servers (congrArg Machine.servers view)

end MachineConfig

lemma Machine.named_append (name : String) (before after : List Machine) :
    named name (before ++ after) = named name before ++ named name after :=
  List.filter_append ..

section Rebuilds
variable {e : Environment} {before after : List Machine} {name : String} {d f : MachineConfig}

lemma Environment.rebuild_append (e : Environment) (before after : List Machine) :
    e.rebuild (before ++ after) = (e.rebuild before).rebuild after :=
  List.foldl_append

lemma named_eq_nil_of_covered (covered : ∀ m ∈ before, ∃ n ∈ after, n.name = m.name)
    (never : named name after = []) : named name before = [] := by
  refine named_eq_nil.mpr fun m hm here => ?_
  obtain ⟨n, hn, same⟩ := covered m hm
  exact named_eq_nil.mp never n hn (same.trans here)

/-- A name that is merged in again reads as the last of its machines, with those before it or
without. -/
lemma machineOf_rebuild_append (again : named name after ≠ [])
    (hd : (e.rebuild (before ++ after)).machines.get? name = some d)
    (hf : (e.rebuild after).machines.get? name = some f) :
    machineOf e.recipe name d = machineOf e.recipe name f := by
  obtain ⟨last, hlast⟩ := Option.ne_none_iff_exists'.mp (mt List.getLast?_eq_none_iff.mp again)
  have hlast' : (named name (before ++ after)).getLast? = some last := by
    rw [named_append, List.getLast?_append, hlast]
    rfl
  obtain ⟨agents, servers, attributes⟩ := machineOf_rebuild hd hlast'
  obtain ⟨agents', servers', attributes'⟩ := machineOf_rebuild hf hlast
  rw [machineOf, machineOf, Machine.mk.injEq]
  exact ⟨rfl, rfl, attributes.trans attributes'.symm, agents.trans agents'.symm,
    servers.trans servers'.symm⟩

/-- The config of a name after both rebuilds and after the last alone. -/
lemma rel_rebuild_append (covered : ∀ m ∈ before, ∃ n ∈ after, n.name = m.name) (name : String) :
    Option.Rel
      (fun d f => machineOf e.recipe name d = machineOf e.recipe name f ∧
        Emptied (named name before) d f)
      ((e.rebuild (before ++ after)).machines.get? name)
      ((e.rebuild after).machines.get? name) := by
  have both := e.get?_rebuild (before ++ after) name
  have last := e.get?_rebuild after name
  rw [named_append] at both
  by_cases again : named name after = []
  · have never := named_eq_nil_of_covered covered again
    rw [never, again] at both
    rw [again] at last
    rw [both, last, never]
    cases e.machines.get? name with
    | none => exact .none
    | some c => exact .some ⟨rfl, .nil c⟩
  · cases hc : e.machines.get? name with
    | none =>
      rw [hc] at both last
      obtain ⟨d, hd⟩ := Option.ne_none_iff_exists'.mp
        (mt mergeAll_eq_none.mp fun none => again (List.append_eq_nil_iff.mp none.2).2)
      obtain ⟨f, hf⟩ := Option.ne_none_iff_exists'.mp
        (mt mergeAll_eq_none.mp fun none => again none.2)
      have view := machineOf_rebuild_append again (both.trans hd) (last.trans hf)
      rw [both, last, hd, hf]
      exact .some ⟨view, (fresh_mergeAll hd).emptied (fresh_mergeAll hf) view⟩
    | some c =>
      obtain ⟨d, hd, long⟩ := exists_kept_mergeAll c (named name before ++ named name after)
      obtain ⟨f, hf, short⟩ := exists_kept_mergeAll c (named name after)
      rw [hc, hd] at both
      rw [hc, hf] at last
      have view := machineOf_rebuild_append again both last
      rw [both, last]
      exact .some ⟨view, long.emptied short view⟩

end Rebuilds

/-- Documents that show the same machine under every name have the same machines. -/
lemma imageMachines_congr {e f : Environment}
    (view : ∀ name, (e.machines.get? name).map (machineOf e.recipe name) =
      (f.machines.get? name).map (machineOf f.recipe name)) :
    imageMachines e = imageMachines f := by
  let before (m n : Machine) : Prop := m.name < n.name
  have antisymm : Std.Antisymm before := ⟨fun _ _ h h' => absurd h' (String.lt_asymm h)⟩
  have irrefl : Std.Irrefl before := ⟨fun _ => String.lt_irrefl _⟩
  refine List.Pairwise.eq_of_mem_iff (r := before) (pairwise_imageMachines e)
    (pairwise_imageMachines f) fun m => ?_
  rw [mem_imageMachines, mem_imageMachines, ← Option.map_eq_some_iff, view,
    Option.map_eq_some_iff]

lemma Environment.names_eq (e : Environment) : e.names = (imageMachines e).map Machine.name := by
  simp [names, Chain.keys, imageMachines, machineOf, Function.comp_def]

/-- Of two rebuilds the last decides on the machines, if it has the names of the first. The
documents differ just in the fields that the first has set and the last alone would leave
absent or null: these are empty. -/
theorem rebuild_twice (dev : DevAgents) (e : Environment) (before after : List Machine)
    (covered : ∀ m ∈ before, ∃ n ∈ after, n.name = m.name) :
    let read := (dockerImage dev).machines
    let both := (e.rebuild before).rebuild after
    let last := e.rebuild after
    read both = read last ∧ both.names = last.names ∧ both.recipe = last.recipe ∧
    both.extra = last.extra ∧ both.machinesForm = last.machinesForm ∧
    ∀ name d c, both.machines.get? name = some d → last.machines.get? name = some c →
      Emptied (named name before) d c := by
  intro read both last
  have joined : e.rebuild (before ++ after) = both := e.rebuild_append before after
  have related (name : String) := joined ▸ rel_rebuild_append (e := e) covered name
  have recipe : both.recipe = e.recipe := by rw [← joined, Environment.rebuild_recipe]
  have machines : imageMachines both = imageMachines last := by
    refine imageMachines_congr fun name => ?_
    have related := related name
    rw [recipe, Environment.rebuild_recipe]
    revert related
    generalize both.machines.get? name = d?, last.machines.get? name = f?
    rintro (h | _)
    · exact congrArg some h.1
    · rfl
  refine ⟨machines, ?_, ?_, ?_, ?_, ?_⟩
  · rw [Environment.names_eq, machines, ← Environment.names_eq]
  · rw [recipe, Environment.rebuild_recipe]
  · rw [← joined, Environment.rebuild_extra, Environment.rebuild_extra]
  · rw [← joined, Environment.rebuild_machinesForm, Environment.rebuild_machinesForm]
  · intro name d c hd hc
    have related := related name
    rw [hd, hc] at related
    cases related with
    | some h => exact h.2

/-- Null agents that an earlier rebuild has set are empty in the end; null attributes, which
it has not, stay null. -/
theorem rebuild_twice_null :
    let recipe : Recipe := ⟨.dockerImage, .absent, .empty⟩
    let e := (Environment.new recipe).insertMachine "web" ⟨.null, .null, .absent, .empty⟩
    let installed : Machine := { Machine.new "web" recipe with agents := ["ssh"] }
    let after := [Machine.new "db" recipe, Machine.new "web" recipe]
    let both := (e.rebuild [installed]).rebuild after
    (dockerImage .default).machines both = (dockerImage .default).machines (e.rebuild after) ∧
      ∃ d c, both.machines.get? "web" = some d ∧ (e.rebuild after).machines.get? "web" = some c ∧
        c.agents = .null ∧ d.agents = .set [] ∧ d.attributes = c.attributes := by
  intro recipe e installed after both
  obtain ⟨machines, _, _, _, _, emptied⟩ :=
    rebuild_twice .default e [installed] after (by simp [after, installed, Machine.new])
  obtain ⟨d, hd⟩ : ∃ d, both.machines.get? "web" = some d :=
    Option.isSome_iff_exists.mp (by decide +kernel)
  have null : ((e.rebuild after).machines.get? "web").any (fun c => c.agents = .null) = true := by
    decide +kernel
  obtain ⟨c, hc, agents⟩ := (Option.any_eq_true _ _).mp null
  have agents : c.agents = .null := of_decide_eq_true agents
  have fields := emptied "web" d c hd hc
  refine ⟨machines, d, c, hd, hc, agents, fields.agents.emptied ?_ ?_, fields.attributes.same ?_⟩
  · rw [agents]
    rfl
  · exact ⟨installed, by simp [named, installed, Machine.new], by simp [installed]⟩
  · refine Or.inr ?_
    simp [named, installed, Machine.new, Machine.limit?, Dict.empty, Chain.get?]

end Workspace
