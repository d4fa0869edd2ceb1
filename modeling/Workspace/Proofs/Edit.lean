import Workspace.Command.Run
import Workspace.Proofs.Path
import Workspace.Proofs.Rebuild
import Workspace.Proofs.Reload

/-! One machine edited. All machines are taken out of the document and merged back, yet only
the config of the one that was edited changes: a machine that is merged back as it was taken
out leaves its config as it was. The machines are listed as before, but for that one, and
as a value the document changes in one place. -/
namespace Workspace
open Json Json.Layout Machine MachineConfig Translator

/-! A machine merged back as it was taken out. -/

lemma Dict.insert_self {α : Type} {m : Dict α} {k : String} {a : α} (h : m.get? k = some a) :
    m.insert k a = m := by
  apply Chain.ext_get?
  intro k'
  rw [Dict.get?_insert]
  split
  · rename_i here
    rw [here, h]
  · rfl

lemma Chain.erase_self {α : Type} {m : Dict α} {k : String} (h : m.get? k = none) :
    m.erase k = m := by
  apply Chain.ext_get?
  intro k'
  rw [Chain.get?_erase]
  split
  · rename_i here
    rw [here, h]
  · rfl

namespace MachineConfig

lemma mergeLimit_self (old : Presence (Dict Json)) :
    mergeLimit old ((old.get?.getD .empty).get? limitKey) = old := by
  cases old with
  | absent | null => rfl
  | set a =>
    simp only [Presence.get?, Option.getD_some]
    cases limit : a.get? limitKey with
    | none => exact congrArg Presence.set (Chain.erase_self limit)
    | some x => exact congrArg Presence.set (Dict.insert_self limit)

lemma mergeField_self {α : Type} {nothing : Bool} {old : Presence α} {empty : α}
    (h : old.isSet = false → nothing = true) :
    mergeField false nothing old (old.get?.getD empty) = old := by
  cases old with
  | absent | null => simp [mergeField, Presence.isSet, Presence.get?, h rfl]
  | set a => simp [mergeField, Presence.isSet, Presence.get?]

variable {recipe : Recipe} {name : String} {c : MachineConfig}

lemma agents_self : mergeField false (c.agents.get?.getD []).isEmpty c.agents
    (c.agents.get?.getD []) = c.agents :=
  mergeField_self fun unset => by cases h : c.agents <;> simp_all [Presence.isSet, Presence.get?]

lemma servers_self : mergeField false (c.servers.get?.getD .empty).isEmpty c.servers
    (c.servers.get?.getD .empty) = c.servers :=
  mergeField_self fun unset => by
    cases h : c.servers <;> simp_all [Presence.isSet, Presence.get?, Dict.empty, Chain.isEmpty]

/-- Merged back as it was taken out. -/
lemma merge_machineOf : merge (some c) (machineOf recipe name c) = c := by
  simp [merge, machineOf, mergeLimit_self, agents_self, servers_self]

/-- With another limit only the attributes change. -/
lemma merge_setMemoryLimit (limit : Int64) :
    merge (some c) ((machineOf recipe name c).setMemoryLimit limit) = { c with
      attributes :=
        .set (Dict.insert (c.attributes.get?.getD .empty) limitKey (.ofInt64 limit)) } := by
  have stored : (Dict.insert (c.attributes.get?.getD .empty) limitKey (Json.ofInt64 limit)).get?
      limitKey = some (.ofInt64 limit) := by
    rw [Dict.get?_insert, if_pos rfl]
  simp [merge, machineOf, setMemoryLimit, stored, mergeLimit, agents_self, servers_self]

/-- With other agents only these change, unless there were none and there are none. -/
lemma merge_agents (agents : Agents) :
    merge (some c) { machineOf recipe name c with agents } =
      { c with agents := mergeField false agents.isEmpty c.agents agents } := by
  simp [merge, machineOf, mergeLimit_self, servers_self]

end MachineConfig

/-! The machines of a document, one of them edited. -/

/-- The edit, if the machine has the name. -/
def Machine.editNamed (name : String) (edit : Machine → Machine) (m : Machine) : Machine :=
  if m.name = name then edit m else m

section Rebuilt
variable {name : String} {edit : Machine → Machine} {machines : List Machine}

lemma editFirst?_eq (distinct : (machines.map Machine.name).Nodup)
    (there : ∃ m ∈ machines, m.name = name) :
    Command.editFirst? name edit machines = some (machines.map (editNamed name edit)) := by
  induction machines with
  | nil => simp at there
  | cons m rest ih =>
    rw [List.map_cons, List.nodup_cons] at distinct
    rw [Command.editFirst?, List.map_cons]
    by_cases here : m.name = name
    · have others : rest.map (editNamed name edit) = rest := by
        refine (List.map_congr_left fun n hn => ?_).trans (List.map_id' rest)
        refine if_neg fun same => distinct.1 ?_
        rw [here, ← same]
        exact List.mem_map_of_mem hn
      rw [if_pos here, others, editNamed, if_pos here]
    · have there : ∃ n ∈ rest, n.name = name := by simpa [here] using there
      rw [if_neg here, ih distinct.2 there, editNamed, if_neg here]
      rfl

lemma named_map_editNamed (keeps : ∀ m, (edit m).name = m.name) (k : String) :
    named k (machines.map (editNamed name edit)) =
      (named k machines).map (editNamed name edit) := by
  have keeps (m : Machine) : (editNamed name edit m).name = m.name := by
    unfold editNamed
    split
    · exact keeps m
    · rfl
  simp [named, List.filter_map, Function.comp_def, keeps]

variable {e : Environment}

lemma named_imageMachines (e : Environment) (k : String) : named k (imageMachines e) =
    ((e.machines.get? k).map (machineOf e.recipe k)).toList := by
  cases hc : e.machines.get? k with
  | none =>
    refine named_eq_nil.mpr fun m hm here => ?_
    obtain ⟨c, hc', _⟩ := mem_imageMachines.mp hm
    rw [here, hc] at hc'
    cases hc'
  | some c =>
    have mem : machineOf e.recipe k c ∈ imageMachines e := mem_imageMachines.mpr ⟨c, hc, rfl⟩
    exact named_of_mem (nodup_imageMachines e) mem

/-- Of all the configs only that of the edited machine changes. -/
lemma rebuild_edited {c : MachineConfig} (hc : e.machines.get? name = some c)
    (keeps : ∀ m, (edit m).name = m.name) :
    e.rebuild ((imageMachines e).map (editNamed name edit)) =
      e.insertMachine name (merge (some c) (edit (machineOf e.recipe name c))) := by
  rw [Environment.rebuild_eq, Environment.insertMachine]
  congr 1
  apply Chain.ext_get?
  intro k
  rw [Environment.get?_rebuild, named_map_editNamed keeps, named_imageMachines, Dict.get?_insert]
  by_cases hk : k = name
  · subst hk
    rw [hc, if_pos rfl]
    simp [editNamed, machineOf, mergeAll]
  · rw [if_neg hk]
    cases hd : e.machines.get? k with
    | none => rfl
    | some d =>
      have unedited : editNamed name edit (machineOf e.recipe k d) = machineOf e.recipe k d :=
        if_neg hk
      simp [unedited, mergeAll, merge_machineOf]

/-- Editing a machine that there is changes its config. -/
lemma editMachine_eq {c : MachineConfig} (dev : DevAgents)
    (hc : e.machines.get? name = some c) (edit : Machine → Machine)
    (keeps : ∀ m, (edit m).name = m.name) :
    Command.editMachine (dockerImage dev) name edit e =
      .ok (e.insertMachine name (merge (some c) (edit (machineOf e.recipe name c)))) := by
  have there : ∃ m ∈ imageMachines e, m.name = name :=
    exists_imageMachines.mpr (Environment.mem_names.mpr (by simp [hc]))
  have edited : Command.editFirst? name edit ((dockerImage dev).machines e) = _ :=
    editFirst?_eq (nodup_imageMachines e) there
  rw [Command.editMachine, edited, ← rebuild_edited hc keeps]
  rfl

/-- A machine is taken out as it was merged in, if but for the limit it has the attributes
of the config. -/
lemma machineOf_merge_self (config? : Option MachineConfig) {m : Machine}
    (h : ∀ k ≠ limitKey, m.attributes.get? k = (attributesOf config?).get? k) :
    machineOf m.recipe m.name (merge config? m) = m := by
  have attributes : withLimit (attributesOf config?) m.limit? = m.attributes := by
    apply Chain.ext_get?
    intro k
    rw [get?_withLimit]
    by_cases hk : k = limitKey
    · rw [if_pos hk, hk]
      rfl
    · rw [if_neg hk, h k hk]
  rw [machineOf_merge, attributes]

/-- With another config under a name the machine of that name is taken out of it, the other
machines as before. -/
lemma imageMachines_insertMachine {c d : MachineConfig} (hc : e.machines.get? name = some c) :
    imageMachines (e.insertMachine name d) =
      (imageMachines e).map (editNamed name fun _ => machineOf e.recipe name d) := by
  have entries := Dict.toList_insert (m := e.machines) (by rw [hc]; exact Option.some_ne_none c) d
  simp only [imageMachines, Environment.insertMachine, entries, List.map_map]
  refine List.map_congr_left fun m _ => ?_
  by_cases here : m.1 = name <;> simp [editNamed, here, machineOf]

lemma imageMachines_edited {c : MachineConfig} {m : Machine} (hc : e.machines.get? name = some c)
    (kept : machineOf e.recipe name (merge (some c) m) = m) :
    imageMachines (e.insertMachine name (merge (some c) m)) =
      (imageMachines e).map (editNamed name fun _ => m) := by
  rw [imageMachines_insertMachine hc, kept]

end Rebuilt

/-! What an edit changes of the value. -/

/-- A record with another known field is the object with that member set. -/
lemma Json.Layout.setMember_dictOf {known known' : List (String × Layout)} {extra : Dict Json}
    {key : String} {x : Json} (lacks : extra.get? key = none) (field : held known' key = some x)
    (others : ∀ k ≠ key, held known' k = held known k) :
    Json.object (dictOf known' extra) = (Json.object (dictOf known extra)).setMember key x := by
  rw [setMember, Json.object.injEq]
  apply Chain.ext_get?
  intro k
  rw [Dict.get?_insert, get?_dictOf, asDict, get?_dictOf]
  by_cases hk : k = key
  · subst hk
    rw [lacks, field, if_pos rfl]
    rfl
  · rw [others k hk, if_neg hk]

namespace MachineConfig
variable {c : MachineConfig}

lemma toJson_setAttributes (h : c.WellFormed) (a : Dict Json) :
    (layout { c with attributes := .set a }).toJson =
      c.layout.toJson.setMember "attributes" (.object a) := by
  rw [toJson_eq, toJson_eq]
  refine setMember_dictOf (h "attributes" (by simp)) ?_ fun k hk => ?_
  · rw [held_known]
    simp [Presence.written]
  · rw [held_known, held_known]
    simp [hk]

lemma toJson_setAgents (h : c.WellFormed) (agents : Agents) :
    (layout { c with agents := .set agents }).toJson =
      c.layout.toJson.setMember "agents" agents.toJson := by
  rw [toJson_eq, toJson_eq]
  refine setMember_dictOf (h "agents" (by simp)) ?_ fun k hk => ?_
  · rw [held_known]
    simp [Presence.written]
  · rw [held_known, held_known]
    simp [hk]

lemma member_attributes (h : c.WellFormed) :
    (c.layout.toJson.member "attributes").asDict = c.attributes.get?.getD .empty := by
  rw [toJson_eq, member, asDict, get?_attributes h]
  cases c.attributes <;> rfl

lemma member_agents (h : c.WellFormed) :
    c.layout.toJson.member "agents" = (c.agents.written Agents.toJson).getD .null := by
  rw [toJson_eq, member, asDict, get?_agents h]

/-- Absent agents and null ones are written alike. -/
lemma agents_written_eq_null {p : Presence Agents} :
    (p.written Agents.toJson).getD .null = .null ↔ p.isSet = false := by
  cases p <;> simp [Presence.written, Presence.isSet, Presence.get?, Agents.toJson]

lemma ofJson_agents_written (p : Presence Agents) :
    Agents.ofJson ((p.written Agents.toJson).getD .null) = p.get?.getD [] := by
  cases p with
  | absent | null => rfl
  | set agents => exact agents.ofJson_toJson

/-- The limit is put in its place, which is made where there are no attributes. -/
lemma toJson_setLimit (h : c.WellFormed) (x : Json) :
    (layout { c with
      attributes := .set (Dict.insert (c.attributes.get?.getD .empty) limitKey x) }).toJson =
      c.layout.toJson.setPath ["attributes", limitKey] x := by
  rw [toJson_setAttributes h, ← member_attributes h]
  rfl

end MachineConfig

namespace Environment
variable {e : Environment} {name : String} {c : MachineConfig}

/-- A document with a machine has an object for its machines. -/
lemma machinesPresence_of_mem (hc : e.machines.get? name = some c) :
    e.machinesPresence = .set e.machines := by
  refine if_neg fun none => ?_
  rw [Chain.isEmpty_iff.mp none] at hc
  cases hc

lemma member_machines (h : e.WellFormed) (hc : e.machines.get? name = some c) :
    e.toJson.member "machines" = machinesJson e.machines := by
  rw [toJson_eq, member, asDict, get?_machines h.extra, machinesPresence_of_mem hc]
  rfl

lemma getPath_machine (h : e.WellFormed) (hc : e.machines.get? name = some c) :
    e.toJson.getPath ["machines", name] = c.layout.toJson := by
  rw [getPath, member_machines h hc, getPath, getPath, member, machinesJson, asDict,
    Chain.get?_mapValues, hc]
  rfl

lemma machinesJson_insert (machines : Dict MachineConfig) (name : String) (d : MachineConfig) :
    machinesJson (machines.insert name d) =
      (machinesJson machines).setMember name d.layout.toJson := by
  rw [machinesJson, machinesJson, setMember, Json.object.injEq]
  apply Chain.ext_get?
  intro k
  rw [asDict, Dict.get?_insert, Chain.get?_mapValues, Chain.get?_mapValues, Dict.get?_insert]
  split <;> rfl

/-- A machine in the place of another one. -/
lemma toJson_insertMachine (h : e.WellFormed) (hc : e.machines.get? name = some c)
    (d : MachineConfig) :
    (e.insertMachine name d).toJson = e.toJson.setPath ["machines", name] d.layout.toJson := by
  have there : (e.insertMachine name d).machines.get? name = some d := by
    rw [insertMachine, Dict.get?_insert, if_pos rfl]
  have machines : machinesJson (e.insertMachine name d).machines =
      (machinesJson e.machines).setMember name d.layout.toJson := machinesJson_insert ..
  rw [setPath, setPath, setPath, member_machines h hc, ← machines, toJson_eq, toJson_eq]
  refine setMember_dictOf (h.extra "machines" (by simp)) ?_ fun k hk => ?_
  · rw [held_known, machinesPresence_of_mem there]
    rfl
  · rw [held_known, held_known]
    simp [hk, insertMachine]

lemma getPath_agents (h : e.WellFormed) (hc : e.machines.get? name = some c) :
    e.toJson.getPath ["machines", name, "agents"] =
      (c.agents.written Agents.toJson).getD .null := by
  have inside := getPath_append e.toJson ["machines", name] ["agents"]
  rw [getPath_machine h hc] at inside
  exact inside.trans (member_agents (h.machines name c hc))

/-- Other agents in the place of those of a machine. -/
lemma toJson_insertMachine_agents (h : e.WellFormed) (hc : e.machines.get? name = some c)
    (agents : Agents) : (e.insertMachine name { c with agents := .set agents }).toJson =
      e.toJson.setPath ["machines", name, "agents"] agents.toJson := by
  have inside := setPath_append e.toJson ["machines", name] ["agents"] agents.toJson
  rw [getPath_machine h hc] at inside
  rw [toJson_insertMachine h hc, toJson_setAgents (h.machines name c hc)]
  exact inside.symm

/-- Another limit in the place of that of a machine. -/
lemma toJson_insertMachine_limit (h : e.WellFormed) (hc : e.machines.get? name = some c)
    (x : Json) : (e.insertMachine name { c with
      attributes := .set (Dict.insert (c.attributes.get?.getD .empty) limitKey x) }).toJson =
        e.toJson.setPath ["machines", name, "attributes", limitKey] x := by
  have inside := setPath_append e.toJson ["machines", name] ["attributes", limitKey] x
  rw [getPath_machine h hc] at inside
  rw [toJson_insertMachine h hc, toJson_setLimit (h.machines name c hc)]
  exact inside.symm

end Environment

end Workspace
