import Workspace.Proofs.Commuting

/-! Runs that set and clear the developer flag. Setting it appends the developer agents that are
missing, each once. Clearing it takes the workspace agent out, wherever it stands by then. So the
workspace agent comes and goes with the flag, while the other agents stay where they are: the
first flag that is set adds the missing ones among them, and after that none is missing. -/
namespace Workspace
open Machine

namespace Machine
variable {agents new : Agents} {agent a : String}

/-- Of some agents those that are not yet listed, in their order and each once. -/
def missing (agents new : Agents) : Agents := (new.filter fun a => !agents.contains a).eraseDups

lemma missing_cons_of_mem (h : a ∈ agents) : missing agents (a :: new) = missing agents new := by
  simp [missing, h]

/-- Beside an agent that is missing those are that are missing once it is listed. -/
lemma missing_cons_of_notMem (h : a ∉ agents) :
    missing agents (a :: new) = a :: missing (agents ++ [a]) new := by
  have first : (a :: new).filter (fun b => !agents.contains b) =
      a :: new.filter fun b => !agents.contains b := by
    simp [h]
  have others : (new.filter fun b => !agents.contains b).filter (fun b => !b == a) =
      new.filter fun b => !(agents ++ [a]).contains b := by
    rw [List.filter_filter]
    refine List.filter_congr fun b _ => ?_
    by_cases same : b = a <;> simp [same]
  rw [missing, first, List.eraseDups_cons, others, missing]

lemma foldl_install (agents new : Agents) :
    new.foldl install agents = agents ++ missing agents new := by
  induction new generalizing agents with
  | nil => simp [missing]
  | cons a new ih =>
    rw [List.foldl_cons, ih, install]
    by_cases there : a ∈ agents
    · simp [there, missing_cons_of_mem]
    · simp [there, missing_cons_of_notMem]

lemma setDev_true (dev : DevAgents) (m : Machine) :
    m.setDev dev true = { m with agents := m.agents ++ missing m.agents dev.installOrder } :=
  congrArg (fun agents => { m with agents }) (foldl_install m.agents dev.installOrder)

lemma count_install : (install agents agent).count a =
    if agent = a then max 1 (agents.count a) else agents.count a := by
  unfold install
  by_cases there : agent ∈ agents
  · have listed := List.count_pos_iff.mpr there
    by_cases same : agent = a
    · subst same
      simp only [List.contains_eq_mem, there, decide_true, if_true]
      omega
    · simp [there, same]
  · have absent := List.count_eq_zero.mpr there
    by_cases same : agent = a
    · subst same
      simp [there, absent]
    · simp [there, same]

lemma count_foldl_install (agents new : Agents) (a : String) :
    (new.foldl install agents).count a =
      if a ∈ new then max 1 (agents.count a) else agents.count a := by
  induction new generalizing agents with
  | nil => simp
  | cons agent new ih =>
    rw [List.foldl_cons, ih, count_install]
    by_cases here : agent = a
    · by_cases later : a ∈ new <;> simp [here, later]
    · by_cases later : a ∈ new <;> simp [here, later, Ne.symm here]

/-- Installing has the same to do in any part of the list. -/
lemma filter_install (p : String → Bool) : (install agents agent).filter p =
    if p agent then install (agents.filter p) agent else agents.filter p := by
  unfold install
  by_cases there : agent ∈ agents
  · by_cases part : p agent <;> simp [there, part]
  · by_cases part : p agent <;> simp [there, part]

lemma filter_foldl_install (p : String → Bool) (agents new : Agents) :
    (new.foldl install agents).filter p = (new.filter p).foldl install (agents.filter p) := by
  induction new generalizing agents with
  | nil => rfl
  | cons agent new ih =>
    rw [List.foldl_cons, ih, filter_install]
    by_cases part : p agent <;> simp [part]

end Machine

/-- The developer agents beside the workspace agent. -/
def DevAgents.companions (dev : DevAgents) : Agents :=
  [dev.ssh, dev.terminal].filter fun agent => agent != dev.workspace

/-! One step of a run. -/

namespace Machine
variable {dev : DevAgents} {m : Machine} {flag : Bool}

lemma count_setDev : (m.setDev dev flag).agents.count dev.workspace =
    if flag then max 1 (m.agents.count dev.workspace) else m.agents.count dev.workspace - 1 := by
  cases flag with
  | false => exact count_setDev_false
  | true =>
    have first : dev.workspace ∈ dev.installOrder := List.mem_cons_self
    exact (count_foldl_install m.agents dev.installOrder dev.workspace).trans (if_pos first)

/-- Of the other agents none goes, and with the flag those that are missing come. -/
lemma others_setDev : (m.setDev dev flag).others dev =
    if flag then dev.companions.foldl install (m.others dev) else m.others dev := by
  cases flag with
  | false => exact others_setDev_false
  | true =>
    have installed := filter_foldl_install (fun agent => agent != dev.workspace) m.agents
      dev.installOrder
    have order : dev.installOrder.filter (fun a => a != dev.workspace) = dev.companions := by
      simp [DevAgents.installOrder, DevAgents.companions, List.filter_cons]
    rw [order] at installed
    exact installed

/-! Runs. -/

/-- The machine after its flag was set and cleared in turn. -/
def setFlags (dev : DevAgents) (flags : List Bool) (m : Machine) : Machine :=
  flags.foldl (fun m flag => m.setDev dev flag) m

lemma setFlags_cons (flag : Bool) (flags : List Bool) :
    m.setFlags dev (flag :: flags) = (m.setDev dev flag).setFlags dev flags := rfl

lemma setFlags_concat (flags : List Bool) (flag : Bool) :
    m.setFlags dev (flags ++ [flag]) = (m.setFlags dev flags).setDev dev flag := by
  simp [setFlags]

lemma setFlags_eq (flags : List Bool) :
    m.setFlags dev flags = { m with agents := (m.setFlags dev flags).agents } := by
  induction flags generalizing m with
  | nil => rfl
  | cons flag flags ih => exact ih (m := m.setDev dev flag)

/-- The workspace agent is never listed twice if it was not. -/
lemma count_setFlags_le (once : m.agents.count dev.workspace ≤ 1) (flags : List Bool) :
    (m.setFlags dev flags).agents.count dev.workspace ≤ 1 := by
  induction flags generalizing m with
  | nil => exact once
  | cons flag flags ih =>
    rw [setFlags_cons]
    refine ih ?_
    rw [count_setDev]
    split <;> omega

/-- The first flag that is set installs what is missing; no later one finds anything missing. -/
lemma others_setFlags (flags : List Bool) : (m.setFlags dev flags).others dev =
    if true ∈ flags then dev.companions.foldl install (m.others dev) else m.others dev := by
  induction flags generalizing m with
  | nil => rfl
  | cons flag flags ih =>
    rw [setFlags_cons, ih, others_setDev]
    cases flag with
    | false => simp
    | true =>
      have again : dev.companions.foldl install (dev.companions.foldl install (m.others dev)) =
          dev.companions.foldl install (m.others dev) :=
        foldl_install_self fun _ h => mem_foldl_install.mpr (Or.inr h)
      simp [again]

/-- After a run that sets and clears the flag of a machine that lists the workspace agent once at
most, the agent is listed once or not at all, as the last flag says. The other agents are those
of before, and behind them, if the flag was ever set, the companions that were missing. Nothing
else of the machine changes. -/
theorem agents_setFlags (dev : DevAgents) (once : m.agents.count dev.workspace ≤ 1)
    {flags : List Bool} {last : Bool} (h : flags.getLast? = some last) :
    let r := m.setFlags dev flags
    r.agents.count dev.workspace = (if last then 1 else 0) ∧ r.isDev dev = last ∧
      r.others dev = m.others dev ++
        (if true ∈ flags then missing (m.others dev) dev.companions else []) ∧
      r = { m with agents := r.agents } := by
  obtain ⟨earlier, rfl⟩ := List.getLast?_eq_some_iff.mp h
  intro r
  have count : r.agents.count dev.workspace = if last then 1 else 0 := by
    have before := count_setFlags_le once earlier
    have step : r = (m.setFlags dev earlier).setDev dev last := setFlags_concat earlier last
    rw [step, count_setDev]
    split <;> omega
  refine ⟨count, ?_, ?_, setFlags_eq _⟩
  · rw [isDev_eq_count, count]
    cases last <;> rfl
  · rw [others_setFlags, foldl_install]
    split
    · rfl
    · exact (List.append_nil _).symm

/-- Two companions with one name, and a flag that is cleared, set twice and cleared again. -/
theorem agents_setFlags_coinciding :
    let dev : DevAgents := ⟨"ws", "ssh", "ssh"⟩
    let m : Machine := { Machine.new "web" ⟨.dockerImage, .absent, .empty⟩ with
      agents := ["vim", "ws", "git"] }
    let r := m.setFlags dev [false, true, true, false]
    r.isDev dev = false ∧ r.others dev = ["vim", "git", "ssh"] := by
  intro dev m r
  have once : m.agents.count dev.workspace ≤ 1 := by decide
  have last : [false, true, true, false].getLast? = some false := rfl
  obtain ⟨_, flag, others, _⟩ := agents_setFlags dev once last
  exact ⟨flag, others⟩

end Machine
end Workspace
