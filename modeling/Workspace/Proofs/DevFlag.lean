import Mathlib.Logic.Function.Iterate
import Workspace.Proofs.Listing

/-! The developer flag after an edit. Setting the flag sets it. Clearing it takes out the
workspace agent where it stands first, and a machine may list that agent more than once. So
the flag is cleared by as many clears as there are workspace agents, not by one. -/
namespace Workspace
open Json Machine Translator Command

namespace Machine
variable {dev : DevAgents} {m : Machine}

/-- The agents less the workspace agent, in their order. -/
def others (dev : DevAgents) (m : Machine) : Agents :=
  m.agents.filter fun agent => agent != dev.workspace

lemma isDev_eq_count : m.isDev dev = decide (0 < m.agents.count dev.workspace) := by
  rw [isDev, Bool.eq_iff_iff]
  simp [List.count_pos_iff]

lemma mem_install {agents : Agents} {agent a : String} :
    a ∈ install agents agent ↔ a ∈ agents ∨ a = agent := by
  unfold install
  split
  · rename_i there
    have there : agent ∈ agents := by simpa using there
    refine ⟨Or.inl, ?_⟩
    rintro (h | rfl)
    · exact h
    · exact there
  · simp

/-- Whatever is installed later, an agent that is there stays. -/
lemma mem_foldl_install {agents new : Agents} {a : String} :
    a ∈ new.foldl install agents ↔ a ∈ agents ∨ a ∈ new := by
  induction new generalizing agents with
  | nil => simp
  | cons agent new ih => rw [List.foldl_cons, ih, mem_install, List.mem_cons, or_assoc]

lemma isDev_setDev_true : (m.setDev dev true).isDev dev = true := by
  rw [isDev, List.contains_iff_mem]
  exact mem_foldl_install.mpr (Or.inr List.mem_cons_self)

/-! One clear. -/

lemma count_setDev_false :
    (m.setDev dev false).agents.count dev.workspace = m.agents.count dev.workspace - 1 :=
  List.count_erase_self ..

lemma filter_erase_self {l : List String} {a : String} :
    (l.erase a).filter (· != a) = l.filter (· != a) := by
  induction l with
  | nil => rfl
  | cons b l ih =>
    rw [List.erase_cons]
    by_cases here : b = a
    · simp [here]
    · simp [here, ih]

lemma others_setDev_false : (m.setDev dev false).others dev = m.others dev :=
  filter_erase_self

lemma isDev_setDev {flag : Bool} : (m.setDev dev flag).isDev dev =
    (flag || decide (1 < m.agents.count dev.workspace)) := by
  cases flag with
  | true => exact isDev_setDev_true
  | false =>
    rw [isDev_eq_count, count_setDev_false, Bool.false_or, decide_eq_decide]
    exact Nat.sub_pos_iff_lt

/-- One clear is enough just if the agent is not listed again. -/
lemma isDev_setDev_false :
    (m.setDev dev false).isDev dev = false ↔ m.agents.count dev.workspace ≤ 1 := by
  rw [isDev_setDev, Bool.false_or, decide_eq_false_iff_not, Nat.not_lt]

lemma setDev_false_eq_others :
    m.setDev dev false = { m with agents := m.others dev } ↔
      m.agents.count dev.workspace ≤ 1 := by
  have gone : (m.setDev dev false).isDev dev = false ↔
      (m.setDev dev false).others dev = (m.setDev dev false).agents := by
    rw [others, List.filter_eq_self, isDev, List.contains_eq_mem, decide_eq_false_iff_not]
    simp only [bne_iff_ne, ne_eq]
    exact ⟨fun absent a ha same => absent (same ▸ ha), fun all ha => all _ ha rfl⟩
  rw [← isDev_setDev_false, gone, others_setDev_false]
  constructor
  · exact fun h => (congrArg Machine.agents h).symm
  · exact fun h => congrArg (fun agents => { m with agents }) h.symm

lemma setDev_false_twice :
    (m.setDev dev false).setDev dev false = m.setDev dev false ↔
      m.agents.count dev.workspace ≤ 1 := by
  rw [← isDev_setDev_false, isDev, List.contains_eq_mem, decide_eq_false_iff_not,
    ← List.erase_eq_self_iff]
  constructor
  · exact fun h => congrArg Machine.agents h
  · exact fun h => congrArg (fun agents => { m with agents }) h

/-! Clears one after the other. -/

lemma count_clears (n : Nat) :
    ((setDev dev false)^[n] m).agents.count dev.workspace =
      m.agents.count dev.workspace - n := by
  induction n with
  | zero => rfl
  | succ n ih => rw [Function.iterate_succ_apply', count_setDev_false, ih, Nat.sub_sub]

lemma isDev_clears (n : Nat) :
    ((setDev dev false)^[n] m).isDev dev = decide (n < m.agents.count dev.workspace) := by
  rw [isDev_eq_count, count_clears]
  simp

lemma others_clears (n : Nat) : ((setDev dev false)^[n] m).others dev = m.others dev := by
  induction n with
  | zero => rfl
  | succ n ih => rw [Function.iterate_succ_apply', others_setDev_false, ih]

end Machine

/-! A run that sets or clears the flag. -/

namespace Command
variable {out name : String} {e : Environment}

/-- The flag is set or cleared of machines that are made of an image. -/
lemma Task.of_setDev {dev : DevAgents} {enabled : Bool}
    (h : ((Task.setDev name enabled).apply dev e).1 = .ok out) :
    e.recipe.type = .dockerImage ∧ ∃ r, out = r.pretty ∧
      editMachine (dockerImage dev) name (Machine.setDev dev enabled) e = .ok r := by
  unfold apply at h
  cases type : e.recipe.type with
  | dockerImage =>
    rw [type] at h
    obtain ⟨r, edited, written⟩ := map_eq_ok.mp h
    exact ⟨rfl, r, written.symm, edited⟩
  | dockerfile | compose | other => rw [type] at h; cases h

end Command

/-- The document with the flag of a machine set or cleared is read from its text. -/
lemma ofText_setDev {text name : String} {e : Environment} {c : MachineConfig}
    (decoded : Environment.decoder.ofText text = .ok e) (hc : e.machines.get? name = some c)
    (dev : DevAgents) (enabled : Bool) :
    let r := e.insertMachine name
      (.merge (some c) ((machineOf e.recipe name c).setDev dev enabled))
    Environment.decoder.ofText (r.pretty ++ "\n") = .ok r := by
  obtain ⟨kept, changed⟩ := textOf_setDev decoded hc dev enabled
  exact (Classical.em _).elim (fun h => (kept h).document) fun h => (changed h).document

/-- A run that sets or clears the flag leaves a document with the machine edited, and every
other machine as before. -/
lemma machines_of_run {fs : FileSystem} {i : Invocation} {s : Surroundings fs} {name : String}
    {enabled : Bool} (task : i.task = .setDev name enabled) (success : (i.run s).failure = none) :
    let t := dockerImage (.ofVariables s.lookup)
    ∃ text e out r, s.read i.document = .ok text ∧ Environment.decoder.ofText text = .ok e ∧
      i.Leaves s out ∧ Environment.decoder.ofText (out ++ "\n") = .ok r ∧
      r.recipe.type = .dockerImage ∧
      ∃ m ∈ t.machines e, m.name = name ∧
        t.machines r = (t.machines e).map (editNamed name fun _ => t.setDev enabled m) := by
  intro t
  obtain ⟨out, text, e, read, decoded, result⟩ := Invocation.answers_of_success success
  have leaves := Invocation.leaves_of_result read decoded result
  rw [task] at result
  obtain ⟨type, r, rfl, edited⟩ := Task.of_setDev result
  have named (m : Machine) : (t.setDev enabled m).name = m.name := rfl
  obtain ⟨c, hc, rfl⟩ := (editMachine_eq_ok_iff named).mp edited
  have kept := machineOf_merge_self (some c)
    (m := t.setDev enabled (machineOf e.recipe name c)) fun _ _ => rfl
  exact ⟨text, e, _, _, read, decoded, leaves, ofText_setDev decoded hc _ enabled, type,
    machineOf e.recipe name c, mem_imageMachines.mpr ⟨c, hc, rfl⟩, rfl,
    imageMachines_edited hc kept⟩

lemma rows_edited {t : Translator} {e r : Environment} {m : Machine} {name : String}
    (machines : t.machines r = (t.machines e).map (editNamed name fun _ => m)) :
    rows t r = (rows t e).map fun row => if row.name = name then .of t m else row := by
  rw [rows, rows, machines, List.map_map, List.map_map]
  refine List.map_congr_left fun n _ => ?_
  have row : (MachineRow.of t n).name = n.name := rfl
  by_cases here : n.name = name <;> simp [editNamed, row, here]

/-- Setting the flag sets it. Clearing it takes out one workspace agent, so it takes as many
clears as there are, and one is enough just if the agent is not listed again. What a run
leaves lists the machine accordingly, and every other machine as before. -/
theorem dev_after_edit (dev : DevAgents) :
    (∀ m : Machine, (m.setDev dev true).isDev dev = true) ∧
    (∀ (m : Machine) (n : Nat),
      ((setDev dev false)^[n] m).isDev dev = decide (n < m.agents.count dev.workspace) ∧
      ((setDev dev false)^[n] m).others dev = m.others dev) ∧
    (∀ m : Machine,
      (m.setDev dev false = { m with agents := m.others dev } ↔
        m.agents.count dev.workspace ≤ 1) ∧
      ((m.setDev dev false).setDev dev false = m.setDev dev false ↔
        m.agents.count dev.workspace ≤ 1)) ∧
    ∀ (fs : FileSystem) (i : Invocation) (s : Surroundings fs) (name : String) (enabled : Bool),
      DevAgents.ofVariables s.lookup = dev → i.task = .setDev name enabled →
      (i.run s).failure = none →
      let t := dockerImage dev
      ∃ text e out r, s.read i.document = .ok text ∧ Environment.decoder.ofText text = .ok e ∧
        i.Leaves s out ∧ Environment.decoder.ofText (out ++ "\n") = .ok r ∧
        (∀ (fs' : FileSystem) (j : Invocation) (s' : Surroundings fs'), j.task = .machines →
          DevAgents.ofVariables s'.lookup = dev → s'.read j.document = .ok (out ++ "\n") →
          j.Leaves s' (Layout.list ((rows t r).map MachineRow.layout)).pretty) ∧
        ∃ m ∈ t.machines e, m.name = name ∧
          (rows t r = (rows t e).map fun row =>
            if row.name = name then .of t (t.setDev enabled m) else row) ∧
          (MachineRow.of t (t.setDev enabled m)).dev =
            (enabled || decide (1 < m.agents.count dev.workspace)) ∧
          Lists dev (out ++ "\n") ((t.machines e).map fun n =>
            (if n.name = name then t.setDev enabled m else n).shown dev) ∧
          ((t.setDev enabled m).shown dev).member "dev" =
            .bool (enabled || decide (1 < m.agents.count dev.workspace)) := by
  refine ⟨fun m => isDev_setDev_true, fun m n => ⟨isDev_clears n, others_clears n⟩,
    fun m => ⟨setDev_false_eq_others, setDev_false_twice⟩, ?_⟩
  rintro fs i s name enabled rfl task success
  obtain ⟨text, e, out, r, read, decoded, leaves, document, type, m, hm, here, machines⟩ :=
    machines_of_run task success
  have flag : (m.setDev _ enabled).isDev _ =
      (enabled || decide (1 < m.agents.count (DevAgents.ofVariables s.lookup).workspace)) :=
    isDev_setDev
  refine ⟨text, e, out, r, read, decoded, leaves, document, ?_, m, hm, here,
    rows_edited machines, flag, ?_, ?_⟩
  · intro fs' j s' task same read
    rw [← same]
    exact leaves_rows task read document type
  · have listed : Lists (.ofVariables s.lookup) (out ++ "\n") _ := lists_machines document type
    have edited : imageMachines r = _ := machines
    rw [edited, List.map_map] at listed
    exact listed
  · rw [← flag]
    exact member_shown (.tail _ (.head _))

/-- With the workspace agent listed twice one clear does not clear the flag: the agent is
still there, and a second clear takes it. -/
theorem setDev_false_repeated :
    let dev := DevAgents.default
    let m : Machine := { Machine.new "web" ⟨.dockerImage, .absent, .empty⟩ with
      agents := [dev.workspace, dev.ssh, dev.workspace] }
    (m.setDev dev false).isDev dev ≠ false ∧
      (m.setDev dev false).agents ≠ m.others dev ∧
      (m.setDev dev false).setDev dev false ≠ m.setDev dev false := by
  intro dev m
  refine ⟨by decide, by decide, fun same => ?_⟩
  have agents := congrArg Machine.agents same
  revert agents
  decide

/-- A flag that is still listed after a run that cleared it. -/
theorem dev_after_edit_repeated :
    let text := "\x7b\"recipe\":\x7b\"type\":\"dockerimage\"\x7d,\"machines\":" ++
      "\x7b\"web\":\x7b\"agents\":[\"org.eclipse.che.ws-agent\",\"org.eclipse.che.ssh\"," ++
      "\"org.eclipse.che.ws-agent\"]\x7d\x7d\x7d"
    let s : Surroundings := ⟨⟨.empty⟩, text, fun _ => none⟩
    let i : Invocation := ⟨false, false, .setDev "web" false, "-", none⟩
    (i.run s).failure = none ∧
      ∃ out r, i.Leaves s out ∧ Environment.decoder.ofText (out ++ "\n") = .ok r ∧
        ∃ row ∈ rows (dockerImage .default) r, row.name = "web" ∧ row.dev = true := by
  intro text s i
  have input : s.read "-" = .ok text := Surroundings.read_input (by decide +kernel) rfl
  have checked : (Environment.decoder.ofText text).toOption.any (fun e =>
      decide (e.recipe.type = .dockerImage ∧ "web" ∈ e.names ∧
        ∀ m ∈ imageMachines e, 1 < m.agents.count DevAgents.default.workspace)) = true := by
    decide +kernel
  obtain ⟨e, decoded, checked⟩ := exists_ok_of_any checked
  obtain ⟨type, web, twice⟩ := of_decide_eq_true checked
  have success : (i.run s).failure = none := by
    have there : ∀ name, i.task.machine? = some name → name ∈ e.names := by
      rintro name ⟨⟩
      exact web
    obtain ⟨_, answer⟩ := i.task.apply_ok_iff.mpr ⟨type, rfl, there⟩
    have leaves := Invocation.leaves_of_result (i := i) input decoded answer
    exact (leaves.printed rfl).1
  obtain ⟨_, _, _, run⟩ := dev_after_edit .default
  obtain ⟨_, e', out, r, read, decoded', leaves, document, _, m, hm, here, listed, flag, _⟩ :=
    run _ i s "web" false rfl rfl success
  cases input.symm.trans read
  cases decoded.symm.trans decoded'
  refine ⟨success, out, r, leaves, document,
    .of (dockerImage .default) ((dockerImage .default).setDev false m), ?_, here, flag.trans ?_⟩
  · rw [listed]
    exact List.mem_map.mpr ⟨_, List.mem_map_of_mem hm, if_pos here⟩
  · simpa using twice m hm

end Workspace
