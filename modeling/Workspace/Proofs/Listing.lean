import Workspace.Proofs.EditedText

/-! What is listed of a document. The listing is a text which is read as a list of objects, one
for each machine in the order of the names, and each of them says of its machine what there is
to be shown. No object is nested deeper than the document is, so the text can be read. -/
namespace Workspace
open Json Json.Layout Machine Translator Command

namespace Json
variable {entries : List (String × Json)} {key : String} {x : Json}

lemma member_ofMembers (distinct : (entries.map Prod.fst).Nodup) (h : (key, x) ∈ entries) :
    (ofMembers entries).member key = x := by
  have found : (Dict.ofList entries).get? key = some x := Dict.get?_ofList_of_mem distinct h
  rw [member, ofMembers, asDict, found]
  rfl

/-- A member that is there is set where it stands. -/
lemma setMember_ofMembers (there : key ∈ entries.map Prod.fst) (x : Json) :
    (ofMembers entries).setMember key x =
      ofMembers (entries.map fun e => if e.1 = key then (key, x) else e) := by
  rw [setMember, ofMembers, ofMembers, asDict, Json.object.injEq]
  apply Chain.ext_get?
  intro k
  have keys (e : String × Json) : (if e.1 = key then (key, x) else e).1 = e.1 := by
    split
    · rename_i here
      exact here.symm
    · rfl
  rw [Dict.get?_insert, Dict.get?_ofList, Dict.get?_ofList, ← List.map_reverse, List.find?_map]
  simp only [Function.comp_def, keys, Option.map_map]
  cases found : entries.reverse.find? fun e => e.1 == k with
  | none =>
    have hk : k ≠ key := by
      rintro rfl
      obtain ⟨e, he, here⟩ := List.mem_map.mp there
      simpa [here] using List.find?_eq_none.mp found e (List.mem_reverse.mpr he)
    rw [if_neg hk]
    rfl
  | some e =>
    have here : e.1 = k := by simpa using List.find?_some found
    by_cases hk : k = key <;> simp [here, hk]

end Json

namespace Machine
variable {dev : DevAgents} {m : Machine} {key : String} {x : Json}

/-- What there is to be shown of a machine that is made of an image. -/
def facts (dev : DevAgents) (m : Machine) : List (String × Json) :=
  [("name", .string m.name), ("dev", .bool (m.isDev dev)),
    ("memoryLimitBytes", .ofInt64 m.memoryLimit), ("agents", m.agents.toJson),
    ("servers", m.servers.toJson),
    ("source", .ofMembers [("image", .string (m.recipe.location.get?.getD ""))])]

def shown (dev : DevAgents) (m : Machine) : Json := .ofMembers (m.facts dev)

lemma member_shown (h : (key, x) ∈ m.facts dev) : (m.shown dev).member key = x := by
  refine member_ofMembers ?_ h
  simp [facts]

lemma name_shown : (m.shown dev).member "name" = .string m.name := member_shown (.head _)

end Machine

/-! The rows are read as what is shown. -/

section Rows
variable {dev : DevAgents} {m : Machine}

lemma toJson_row : (MachineRow.of (dockerImage dev) m).layout.toJson = m.shown dev := rfl

lemma within_row {room : Nat} (servers : m.servers.toJson.Within (room + 1)) :
    (MachineRow.of (dockerImage dev) m).layout.Within (room + 2) := by
  have flat (x : Json) (noList : ∀ items, x ≠ .list items) (noObject : ∀ d, x ≠ .object d) :
      (Layout.value x).Within (room + 1) := within_value_iff.mpr (within_flat _ noList noObject)
  have agents : (Layout.value m.agents.toJson).Within (room + 1) :=
    within_value_iff.mpr (m.agents.within_toJson room)
  have servers := within_value_iff.mpr servers
  have source : (Translator.imageOf m).layout.Within (room + 1) := by
    intro e he
    obtain rfl := List.mem_singleton.mp he
    exact within_value_iff.mpr (within_flat _ (by simp) (by simp))
  have row : (MachineRow.of (dockerImage dev) m).layout = .record [("name", .string m.name),
    ("dev", .value (.bool (m.isDev dev))), ("memoryLimitBytes", .value (.ofInt64 m.memoryLimit)),
    ("agents", .value m.agents.toJson), ("servers", .value m.servers.toJson),
    ("source", (Translator.imageOf m).layout)] := rfl
  rw [row, Layout.Within]
  simp only [List.forall_mem_cons]
  refine ⟨flat _ ?_ ?_, flat _ ?_ ?_, flat _ ?_ ?_, agents, servers, source, ?_⟩
  all_goals simp [ofInt64]

end Rows

section Documents
variable {dev : DevAgents} {text name : String} {e : Environment} {c : MachineConfig}

/-- The servers of a machine stand in the document, three levels down. -/
lemma within_servers (decoded : Environment.decoder.ofText text = .ok e)
    (hc : e.machines.get? name = some c) :
    (machineOf e.recipe name c).servers.toJson.Within 125 := by
  obtain ⟨wellFormed, nested, _⟩ := Environment.of_text decoded
  have config : c.layout.toJson.Within 125 := by
    rw [← Environment.getPath_machine wellFormed hc]
    exact (Within.member nested "machines").member name
  have stored : c.layout.toJson.member "servers" = (c.servers.written Servers.toJson).getD .null := by
    rw [MachineConfig.toJson_eq, member, asDict,
      MachineConfig.get?_servers (wellFormed.machines name c hc)]
  cases set : c.servers with
  | absent | null => rw [machineOf, set]; rintro _ _ ⟨⟩
  | set servers =>
    rw [set] at stored
    rw [machineOf, set]
    have inside := config.member "servers"
    rw [stored] at inside
    exact inside.succ

/-- A run that lists the machines of a document that can be read. -/
lemma leaves_rows {fs : FileSystem} {i : Invocation} {s : Surroundings fs}
    (task : i.task = .machines) (read : s.read i.document = .ok text)
    (decoded : Environment.decoder.ofText text = .ok e) (type : e.recipe.type = .dockerImage) :
    i.Leaves s (Layout.list ((rows (dockerImage (.ofVariables s.lookup)) e).map
      MachineRow.layout)).pretty := by
  refine Invocation.leaves_of_result read decoded ?_
  rw [task, Task.apply, type]
  rfl

/-- Every run that lists the machines of the text leaves the same listing, which is read as
these rows. -/
def Lists (dev : DevAgents) (text : String) (rows : List Json) : Prop :=
  ∃ out, Shape.any.parse out.toList = .ok (.list rows) ∧
    ∀ (fs : FileSystem) (j : Invocation) (s : Surroundings fs), j.task = .machines →
      DevAgents.ofVariables s.lookup = dev → s.read j.document = .ok text → j.Leaves s out

/-- A document that is made of an image is listed by what is shown of its machines. -/
lemma lists_machines (decoded : Environment.decoder.ofText text = .ok e)
    (type : e.recipe.type = .dockerImage) :
    Lists dev text ((imageMachines e).map (shown dev)) := by
  have value : (Layout.list ((rows (dockerImage dev) e).map MachineRow.layout)).toJson =
      .list ((imageMachines e).map (shown dev)) := by
    rw [Layout.toJson, itemValues_eq, rows, List.map_map, List.map_map]
    exact congrArg Json.list (List.map_congr_left fun _ _ => toJson_row)
  refine ⟨(Layout.list ((rows (dockerImage dev) e).map MachineRow.layout)).pretty, ?_, ?_⟩
  · rw [← value]
    refine parse_of_within fun l hl => ?_
    obtain ⟨row, hrow, rfl⟩ := List.mem_map.mp hl
    obtain ⟨m, hm, rfl⟩ := List.mem_map.mp hrow
    obtain ⟨c, hc, shown⟩ := mem_imageMachines.mp hm
    rw [← shown]
    exact within_row (within_servers decoded hc)
  · rintro fs j s task rfl read
    exact leaves_rows task read decoded type

end Documents

end Workspace
