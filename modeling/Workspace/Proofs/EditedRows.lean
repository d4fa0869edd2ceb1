import Workspace.Proofs.DevRuns
import Workspace.Proofs.LastWrite
import Workspace.Proofs.NumericLimit

/-! What is listed of a document after an edit. An edit leaves a text, and whoever lists the
machines of that text finds the rows of before, in their order, but for one: the row of the
machine that was edited shows the limit that was set, or the flag and the agents that go with it.
The rows are computed from what is stored, so a row whose limit is stored as a text or a fraction
is the same row because the machine behind it is the same machine. -/
namespace Workspace
open Json Machine MachineConfig Translator Command

/-! The row of a machine that is edited. -/

namespace Machine
variable {dev : DevAgents} {m : Machine}

/-- The row with a limit that was set; a limit of zero is shown as none. -/
def limitedRow (bytes : Int64) (row : Json) : Json :=
  row.setMember "memoryLimitBytes" (.ofInt64 (if bytes = 0 then -1 else bytes))

/-- The row with the flag, and the missing agents behind those that it shows. -/
def flaggedRow (dev : DevAgents) (row : Json) : Json :=
  let agents := Agents.ofJson (row.member "agents")
  (row.setMember "dev" (.bool true)).setMember "agents"
    (Agents.toJson (agents ++ missing agents dev.installOrder))

lemma shown_setMemoryLimit (bytes : Int64) :
    (m.setMemoryLimit bytes).shown dev = limitedRow bytes (m.shown dev) := by
  rw [limitedRow, ← memoryLimit_setMemoryLimit bytes m, shown, shown,
    setMember_ofMembers (by simp [facts])]
  rfl

lemma shown_setDev : (m.setDev dev true).shown dev = flaggedRow dev (m.shown dev) := by
  have agents : (m.shown dev).member "agents" = m.agents.toJson :=
    member_shown (by simp [facts])
  have flag : (m.setDev dev true).isDev dev = true := isDev_setDev_true
  rw [setDev_true] at flag ⊢
  rw [flaggedRow, agents, Agents.ofJson_toJson, shown, shown,
    setMember_ofMembers (by simp [facts]), setMember_ofMembers (by simp [facts])]
  simp [facts, flag, memoryLimit]

end Machine

namespace Command
variable {dev : DevAgents} {name text : String} {e : Environment} {c : MachineConfig}

/-- The rows with the one of this name changed. -/
def changeRow (name : String) (change : Json → Json) (rows : List Json) : List Json :=
  rows.map fun row => if (row.member "name").asString? = some name then change row else row

/-- An edit of one machine, seen in the rows. -/
lemma map_shown_edited {edit : Machine → Machine} {change : Json → Json}
    (hc : e.machines.get? name = some c)
    (kept : machineOf e.recipe name (merge (some c) (edit (machineOf e.recipe name c))) =
      edit (machineOf e.recipe name c))
    (shows : ∀ m, (edit m).shown dev = change (m.shown dev)) :
    (imageMachines (e.insertMachine name
        (merge (some c) (edit (machineOf e.recipe name c))))).map (shown dev) =
      changeRow name change ((imageMachines e).map (shown dev)) := by
  rw [imageMachines_edited hc kept, changeRow, List.map_map, List.map_map]
  refine List.map_congr_left fun m hm => ?_
  have rowName : ((m.shown dev).member "name").asString? = some m.name :=
    congrArg asString? name_shown
  simp only [Function.comp_apply, rowName, Option.some.injEq, editNamed]
  by_cases here : m.name = name
  · obtain ⟨d, hd, taken⟩ := mem_imageMachines.mp hm
    rw [here, hc] at hd
    cases hd
    rw [here] at taken
    rw [if_pos here, if_pos here, taken, shows]
  · rw [if_neg here, if_neg here]

/-- An edit leaves the text of the document with one config changed, which is read as that
document again. So what it does to the row of a machine is what changes in the listing. -/
lemma exists_listed {fs : FileSystem} {i : Invocation} {s : Surroundings fs}
    {edit : Machine → Machine} {change : Json → Json}
    (agents : DevAgents.ofVariables s.lookup = dev)
    (read : s.read i.document = .ok text) (decoded : Environment.decoder.ofText text = .ok e)
    (type : e.recipe.type = .dockerImage) (hc : e.machines.get? name = some c)
    (edits : i.task.machine? = some name)
    (made : i.task.change dev c = merge (some c) (edit (machineOf e.recipe name c)))
    (kept : machineOf e.recipe name (merge (some c) (edit (machineOf e.recipe name c))) =
      edit (machineOf e.recipe name c))
    (shows : ∀ m, (edit m).shown dev = change (m.shown dev)) :
    ∃ out, i.Leaves s out ∧
      Lists dev (out ++ "\n") (changeRow name change ((imageMachines e).map (shown dev))) := by
  subst agents
  have changed : e.change? name (i.task.change (.ofVariables s.lookup)) =
      some (e.insertMachine name (i.task.change (.ofVariables s.lookup) c)) := by
    simp [Environment.change?, type, hc]
  have answer := (Task.apply_eq_ok_iff edits).mpr (Option.map_eq_some_iff.mpr ⟨_, changed, rfl⟩)
  have document := Task.ofText_change decoded edits changed
  refine ⟨_, Invocation.leaves_of_result read decoded answer, ?_⟩
  rw [← map_shown_edited hc kept shows, ← made]
  exact lists_machines document type

/-- An edit of a machine that is in the document leaves a text of which the same rows are listed
as of the document, one for each machine in the order of their names, but for the row of the
machine: that one shows the limit that was set, or minus one if it is zero; or it shows the flag,
and behind its agents the developer agents that were missing. -/
theorem rows_after_edit (dev : DevAgents) (decoded : Environment.decoder.ofText text = .ok e)
    (type : e.recipe.type = .dockerImage) (there : name ∈ e.names) :
    let before := (imageMachines e).map (shown dev)
    before.map (fun row => row.member "name") = e.names.map .string ∧ Lists dev text before ∧
    ∀ (fs : FileSystem) (i : Invocation) (s : Surroundings fs),
      DevAgents.ofVariables s.lookup = dev → s.read i.document = .ok text →
      (∀ bytes, i.task = .setMemory name bytes → ∃ out, i.Leaves s out ∧
        Lists dev (out ++ "\n") (changeRow name (limitedRow bytes) before)) ∧
      (i.task = .setDev name true → ∃ out, i.Leaves s out ∧
        Lists dev (out ++ "\n") (changeRow name (flaggedRow dev) before)) := by
  intro before
  obtain ⟨c, hc⟩ := Option.ne_none_iff_exists'.mp (Environment.mem_names.mp there)
  refine ⟨?names, lists_machines decoded type, fun fs i s agents read => ⟨?limit, ?flag⟩⟩
  case names =>
    rw [Environment.names_eq]
    simp [before, name_shown]
  case limit =>
    intro bytes task
    refine exists_listed agents read decoded type hc (by rw [task]; rfl) ?_ ?_
      fun _ => shown_setMemoryLimit bytes
    · rw [task, merge_limit]
      rfl
    · refine machineOf_merge_self (some c)
        (m := (machineOf e.recipe name c).setMemoryLimit bytes) fun k hk => ?_
      rw [setMemoryLimit, Dict.get?_insert, if_neg hk]
      rfl
  case flag =>
    intro task
    refine exists_listed agents read decoded type hc (by rw [task]; rfl) ?_ ?_
      fun _ => shown_setDev
    · rw [task, merge_flag]
      rfl
    · exact machineOf_merge_self (some c)
        (m := (machineOf e.recipe name c).setDev dev true) fun _ _ => rfl

/-- A limit of zero and a flag, beside a machine whose limit is a fraction. -/
theorem rows_after_edit_fraction :
    let text := "\x7b\"recipe\":\x7b\"type\":\"dockerimage\"\x7d,\"machines\":\x7b\"db\":" ++
      "\x7b\"attributes\":\x7b\"memoryLimitBytes\":7.5\x7d\x7d,\"web\":" ++
      "\x7b\"attributes\":null,\"agents\":[\"org.eclipse.che.ssh\"]\x7d\x7d\x7d"
    let s : Surroundings := ⟨⟨.empty⟩, text, fun _ => none⟩
    let limit : Invocation := ⟨false, false, .setMemory "web" 0, "-", none⟩
    let flag : Invocation := ⟨false, false, .setDev "web" true, "-", none⟩
    let texts (key : String) (rows : List Json) : List String :=
      rows.map fun row => (Layout.value (row.member key)).compact
    (∃ out rows, limit.Leaves s out ∧ Lists .default (out ++ "\n") rows ∧
      texts "memoryLimitBytes" rows = ["8", "-1"]) ∧
    ∃ out rows, flag.Leaves s out ∧ Lists .default (out ++ "\n") rows ∧
      texts "dev" rows = ["false", "true"] ∧ rows.map (fun row => Agents.ofJson (row.member "agents")) =
        [[], ["org.eclipse.che.ssh", "org.eclipse.che.ws-agent", "org.eclipse.che.terminal"]] := by
  intro text s limit flag texts
  have read : s.read "-" = .ok text := Surroundings.read_input (by decide +kernel) rfl
  have checked : (Environment.decoder.ofText text).toOption.any (fun e =>
      let before := (imageMachines e).map (shown .default)
      let limited := changeRow "web" (limitedRow 0) before
      let flagged := changeRow "web" (flaggedRow .default) before
      decide (e.recipe.type = .dockerImage ∧ "web" ∈ e.names ∧
        texts "memoryLimitBytes" limited = ["8", "-1"] ∧
        texts "dev" flagged = ["false", "true"] ∧
        flagged.map (fun row => Agents.ofJson (row.member "agents")) =
          [[], ["org.eclipse.che.ssh", "org.eclipse.che.ws-agent",
            "org.eclipse.che.terminal"]])) = true := by decide +kernel
  obtain ⟨e, decoded, checked⟩ := exists_ok_of_any checked
  obtain ⟨type, web, limits, flags, agents⟩ := of_decide_eq_true checked
  obtain ⟨_, _, edits⟩ := rows_after_edit .default decoded type web
  obtain ⟨out, leaves, listed⟩ := (edits _ limit s rfl read).1 0 rfl
  obtain ⟨out', leaves', listed'⟩ := (edits _ flag s rfl read).2 rfl
  exact ⟨⟨out, _, leaves, listed, limits⟩, out', _, leaves', listed', flags, agents⟩

end Command
end Workspace
