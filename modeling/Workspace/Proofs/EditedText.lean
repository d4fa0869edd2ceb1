import Workspace.Proofs.DocumentWritten
import Workspace.Proofs.Run

/-! The texts that edits leave. A document that was read is edited and written; the text is
not nested deeper than the limit and is read as the edited document again, and its value is
that of the document read with one place set. -/
namespace Workspace
open Json Machine MachineConfig Translator Command

/-- The text of a document with this value. -/
structure TextOf (out : String) (r : Environment) (w : Json) : Prop where
  document : Environment.decoder.ofText (out ++ "\n") = .ok r
  value : Shape.any.parse out.toList = .ok w

namespace Command.Invocation
variable {fs : FileSystem} {i : Invocation} {s : Surroundings fs} {text out : String}
  {e : Environment}

/-- The run leaves a text, with a line break behind it: printed, or in a file that can be
written. -/
structure Leaves (i : Invocation) (s : Surroundings fs) (out : String) : Prop where
  printed : i.output = none →
    (i.run s).failure = none ∧ (i.run s).output = out ++ "\n" ∧ (i.run s).files = s.files
  written : ∀ path after, i.output = some path →
    fs.write s.files path (out ++ "\n") = (.ok (), after) →
    (i.run s).failure = none ∧ (i.run s).output = "" ∧ (i.run s).files = after

/-- A run of a task that succeeds on a document that can be read. -/
lemma leaves_of_result (read : s.read i.document = .ok text)
    (decoded : Environment.decoder.ofText text = .ok e)
    (result : (i.task.apply (.ofVariables s.lookup) e).1 = .ok out) : i.Leaves s out := by
  obtain ⟨events, run⟩ := Answers.run_eq ⟨text, e, read, decoded, result⟩
  constructor
  · intro none
    rw [run, none, Surroundings.deliver_printed]
    exact ⟨rfl, rfl, rfl⟩
  · intro path after some write
    rw [run, some, Surroundings.deliver_written write]
    exact ⟨rfl, rfl, rfl⟩

end Command.Invocation

/-! Documents that were read from a text, one of their machines replaced. -/

section Documents
variable {text name : String} {e : Environment} {c d : MachineConfig}

/-- What is known of a document that was read from a text. -/
lemma Environment.of_text (h : Environment.decoder.ofText text = .ok e) :
    e.WellFormed ∧ e.toJson.Within nestingLimit ∧
      (e.machines ≠ .empty → e.machinesForm = .object) := by
  obtain ⟨v, parsed, byValue⟩ := Decoder.value_of_text Environment.shape_extensible h
  refine ⟨Environment.wellFormed_of_decoded byValue, ?_, fun some => ?_⟩
  · obtain ⟨fits, rfl⟩ := Decoder.ofValue_eq_ok.mp byValue
    have value : (Environment.decoder.make v).toJson = v := Environment.toJson_ofJson fits
    rw [value]
    exact within_of_parse parsed
  · rcases Environment.machines_of_decoded byValue with ⟨_, form⟩ | ⟨_, _, none⟩
    · exact form
    · exact absurd none some

lemma Environment.WellFormed.insertMachine (h : e.WellFormed) (hd : d.WellFormed) :
    (e.insertMachine name d).WellFormed where
  recipe := h.recipe
  machines k c hc := by
    rw [Environment.insertMachine, Dict.get?_insert] at hc
    split at hc
    · cases hc
      exact hd
    · exact h.machines k c hc
  extra := h.extra

/-- The text of the document with a machine replaced, if its value is not nested too deep. -/
lemma textOf_insertMachine (decoded : Environment.decoder.ofText text = .ok e)
    (hc : e.machines.get? name = some c) (hd : d.WellFormed) {w : Json}
    (value : (e.insertMachine name d).toJson = w) (nested : w.Within nestingLimit) :
    TextOf (e.insertMachine name d).pretty (e.insertMachine name d) w := by
  obtain ⟨wellFormed, _, object⟩ := Environment.of_text decoded
  have form : e.machinesForm = .object := by
    refine object ?_
    rintro none
    rw [none] at hc
    cases hc
  subst value
  obtain ⟨document, value⟩ := Environment.ofText_pretty (wellFormed.insertMachine hd) nested
  refine ⟨document.trans ?_, value⟩
  have same : (e.insertMachine name d).reloadedForm = e.machinesForm := by
    simp [Environment.reloadedForm, Environment.insertMachine, form]
  rw [same]
  rfl

end Documents

/-! The two edits. -/

lemma Agents.within_toJson (agents : Agents) (room : Nat) : agents.toJson.Within (room + 1) := by
  intro x hx
  obtain ⟨agent, _, rfl⟩ := List.mem_map.mp hx
  exact within_flat room (by simp) (by simp)

section Edits
variable {text name : String} {e : Environment} {c : MachineConfig}

/-- Setting the limit sets one number of the value. -/
lemma textOf_setMemoryLimit (decoded : Environment.decoder.ofText text = .ok e)
    (hc : e.machines.get? name = some c) (limit : Int64) :
    let r := e.insertMachine name (merge (some c)
      ((machineOf e.recipe name c).setMemoryLimit limit))
    TextOf r.pretty r
      (e.toJson.setPath ["machines", name, "attributes", limitKey] (.ofInt64 limit)) := by
  obtain ⟨wellFormed, nested, _⟩ := Environment.of_text decoded
  have within : (Json.ofInt64 limit).Within 123 := within_flat 123 (by simp [ofInt64])
    (by simp [ofInt64])
  rw [merge_setMemoryLimit]
  refine textOf_insertMachine decoded hc ?_ ?_ (nested.setPath within rfl)
  · exact wellFormed.machines name c hc
  · exact Environment.toJson_insertMachine_limit wellFormed hc _

/-- Merging other agents sets these, unless there are none now as before. -/
lemma textOf_agents (decoded : Environment.decoder.ofText text = .ok e)
    (hc : e.machines.get? name = some c) (agents : Agents) :
    let r := e.insertMachine name
      { c with agents := mergeField false agents.isEmpty c.agents agents }
    let old := e.toJson.getPath ["machines", name, "agents"]
    (agents = [] ∧ old = .null → TextOf r.pretty r e.toJson) ∧
    (¬(agents = [] ∧ old = .null) → TextOf r.pretty r
      (e.toJson.setPath ["machines", name, "agents"] agents.toJson)) := by
  obtain ⟨wellFormed, nested, _⟩ := Environment.of_text decoded
  have config := wellFormed.machines name c hc
  have unset : e.toJson.getPath ["machines", name, "agents"] = .null ↔
      c.agents.isSet = false := by
    rw [Environment.getPath_agents wellFormed hc, agents_written_eq_null]
  dsimp only
  rw [unset]
  constructor
  · rintro ⟨rfl, unset⟩
    have kept : mergeField false true c.agents ([] : Agents) = c.agents := by
      simp [mergeField, unset]
    refine textOf_insertMachine decoded hc ?_ ?_ nested
    · exact config
    · rw [List.isEmpty_nil, kept, Environment.insertMachine, Dict.insert_self hc]
  · intro edited
    have changed : mergeField false agents.isEmpty c.agents agents = .set agents := by
      refine if_pos ?_
      by_cases none : agents = [] <;> simp_all
    rw [changed]
    refine textOf_insertMachine decoded hc ?_ ?_ (nested.setPath (agents.within_toJson 123) rfl)
    · exact config
    · exact Environment.toJson_insertMachine_agents wellFormed hc agents

/-- The agents of the edited machine are made of those that stand in the value. -/
lemma textOf_setDev (decoded : Environment.decoder.ofText text = .ok e)
    (hc : e.machines.get? name = some c) (dev : DevAgents) (flag : Bool) :
    let r := e.insertMachine name (merge (some c) ((machineOf e.recipe name c).setDev dev flag))
    let old := e.toJson.getPath ["machines", name, "agents"]
    let agents := (Machine.setDev dev flag
      { Machine.new name e.recipe with agents := .ofJson old }).agents
    (agents = [] ∧ old = .null → TextOf r.pretty r e.toJson) ∧
    (¬(agents = [] ∧ old = .null) → TextOf r.pretty r
      (e.toJson.setPath ["machines", name, "agents"] agents.toJson)) := by
  obtain ⟨wellFormed, _, _⟩ := Environment.of_text decoded
  have old : Agents.ofJson (e.toJson.getPath ["machines", name, "agents"]) =
      (machineOf e.recipe name c).agents := by
    rw [Environment.getPath_agents wellFormed hc, ofJson_agents_written]
    rfl
  have agents : (Machine.setDev dev flag { Machine.new name e.recipe with
      agents := .ofJson (e.toJson.getPath ["machines", name, "agents"]) }).agents =
        ((machineOf e.recipe name c).setDev dev flag).agents := by
    rw [old]
    rfl
  have merged : merge (some c) ((machineOf e.recipe name c).setDev dev flag) = _ :=
    merge_agents ((machineOf e.recipe name c).setDev dev flag).agents
  dsimp only
  rw [merged, agents]
  exact textOf_agents decoded hc _

/-- The task of an edit leaves the edited document as it is written. -/
lemma apply_of_edit {task : Task} {edit : Machine → Machine} {dev : DevAgents} {r : Environment}
    (type : e.recipe.type = .dockerImage)
    (result : task.result (dockerImage dev) e =
      (editMachine (dockerImage dev) name edit e).map Environment.pretty)
    (edited : editMachine (dockerImage dev) name edit e = .ok r) :
    (task.apply dev e).1 = .ok r.pretty := by
  rw [Task.apply, type]
  rw [edited] at result
  exact result

/-- An edit of a machine that is in the document succeeds. It leaves a text that is read as
the edited document again, and the value of the text is that of the document before with one
place set: the limit, or the agents of the machine, which stay absent or null if there are
none to write. -/
theorem edit_rewrites {fs : FileSystem} {i : Command.Invocation} {s : Surroundings fs}
    {text name : String} {e : Environment} (read : s.read i.document = .ok text)
    (decoded : Environment.decoder.ofText text = .ok e) (type : e.recipe.type = .dockerImage)
    (there : name ∈ e.names) :
    let t := dockerImage (.ofVariables s.lookup)
    (∀ bytes, i.task = .setMemory name bytes →
      ∃ r out, editMachine t name (setMemoryLimit bytes) e = .ok r ∧ i.Leaves s out ∧
        TextOf out r
          (e.toJson.setPath ["machines", name, "attributes", limitKey] (.ofInt64 bytes))) ∧
    ∀ enabled, i.task = .setDev name enabled →
      ∃ r out, editMachine t name (t.setDev enabled) e = .ok r ∧ i.Leaves s out ∧
        let old := e.toJson.getPath ["machines", name, "agents"]
        let agents := (t.setDev enabled
          { Machine.new name e.recipe with agents := .ofJson old }).agents
        (agents = [] ∧ old = .null → TextOf out r e.toJson) ∧
        (¬(agents = [] ∧ old = .null) →
          TextOf out r (e.toJson.setPath ["machines", name, "agents"] agents.toJson)) := by
  obtain ⟨c, hc⟩ := Option.ne_none_iff_exists'.mp (Environment.mem_names.mp there)
  intro t
  constructor
  · intro bytes task
    have edited := editMachine_eq (.ofVariables s.lookup) hc (setMemoryLimit bytes)
      fun _ => rfl
    refine ⟨_, _, edited, Invocation.leaves_of_result read decoded ?_,
      textOf_setMemoryLimit decoded hc bytes⟩
    rw [task]
    exact apply_of_edit type rfl edited
  · intro enabled task
    have edited := editMachine_eq (.ofVariables s.lookup) hc (t.setDev enabled)
      fun _ => rfl
    refine ⟨_, _, edited, Invocation.leaves_of_result read decoded ?_,
      textOf_setDev decoded hc (.ofVariables s.lookup) enabled⟩
    rw [task]
    exact apply_of_edit type rfl edited

/-- A limit where the attributes are null, and a flag cleared where the agents are. -/
theorem edit_rewrites_null :
    let text := "\x7b\"recipe\":\x7b\"type\":\"dockerimage\"\x7d,\"machines\":" ++
      "\x7b\"web\":\x7b\"attributes\":null\x7d,\"db\":\x7b\"agents\":null\x7d\x7d\x7d"
    let s : Surroundings := ⟨⟨.empty⟩, text, fun _ => none⟩
    let limited : Command.Invocation := ⟨false, false, .setMemory "web" 512, "-", none⟩
    let cleared : Command.Invocation := ⟨false, false, .setDev "db" false, "-", none⟩
    ∃ e, Environment.decoder.ofText text = .ok e ∧
      (∃ r out, limited.Leaves s out ∧ TextOf out r
        (e.toJson.setPath ["machines", "web", "attributes", limitKey] (.ofInt64 512))) ∧
      ∃ r out, cleared.Leaves s out ∧ TextOf out r e.toJson := by
  intro text s limited cleared
  have read : s.read "-" = .ok text := Surroundings.read_input (by decide +kernel) rfl
  have checked : (Environment.decoder.ofText text).toOption.any (fun e =>
      decide (e.recipe.type = .dockerImage ∧ "web" ∈ e.names ∧ "db" ∈ e.names) &&
        (e.toJson.getPath ["machines", "db", "agents"]).same .null) = true := by decide +kernel
  obtain ⟨e, decoded, checked⟩ := exists_ok_of_any checked
  simp only [Bool.and_eq_true, decide_eq_true_eq] at checked
  obtain ⟨⟨type, web, db⟩, null⟩ := checked
  refine ⟨e, decoded, ?_, ?_⟩
  · obtain ⟨limit, _⟩ := edit_rewrites (i := limited) read decoded type web
    obtain ⟨r, out, _, leaves, document⟩ := limit 512 rfl
    exact ⟨r, out, leaves, document⟩
  · obtain ⟨_, flag⟩ := edit_rewrites (i := cleared) read decoded type db
    obtain ⟨r, out, _, leaves, kept, _⟩ := flag false rfl
    have absent : e.toJson.getPath ["machines", "db", "agents"] = .null := by
      generalize e.toJson.getPath ["machines", "db", "agents"] = old at null
      cases old <;> simp_all [Json.same]
    refine ⟨r, out, leaves, kept ⟨?_, absent⟩⟩
    rw [absent]
    rfl

end Edits

end Workspace
