import Workspace.Proofs.DevRuns

/-! Setting the developer flag. The agents are looked up in the list as it grows, so an agent that
two of the developer agents share is added once. What is added is laid down by four things: it has no
repeats, it holds the developer agents that were not listed and no others, and they stand in the
order of installation. -/
namespace Workspace
open Machine

namespace Machine
variable {agents new : Agents} {a : String}

lemma mem_missing : a ∈ missing agents new ↔ a ∈ new ∧ a ∉ agents := by
  simp [missing, List.mem_eraseDups]

lemma nodup_missing (agents new : Agents) : (missing agents new).Nodup := by
  induction new generalizing agents with
  | nil => simp [missing]
  | cons a new ih =>
    by_cases there : a ∈ agents
    · rw [missing_cons_of_mem there]
      exact ih agents
    · rw [missing_cons_of_notMem there, List.nodup_cons]
      refine ⟨fun again => ?_, ih _⟩
      have absent := (mem_missing.mp again).2
      simp at absent

/-- What is missing stands in the order of the first places. -/
lemma pairwise_missing (agents new : Agents) :
    (missing agents new).Pairwise fun a b => new.idxOf a < new.idxOf b := by
  induction new generalizing agents with
  | nil => simp [missing]
  | cons c new ih =>
    have later {a : String} (ha : a ≠ c) : (c :: new).idxOf a = new.idxOf a + 1 :=
      List.idxOf_cons_ne _ ha.symm
    by_cases there : c ∈ agents
    · rw [missing_cons_of_mem there]
      refine (ih agents).imp_of_mem fun {a b} ha hb before => ?_
      have hac : a ≠ c := fun same => (mem_missing.mp ha).2 (same ▸ there)
      have hbc : b ≠ c := fun same => (mem_missing.mp hb).2 (same ▸ there)
      rw [later hac, later hbc]
      omega
    · have others {a : String} (ha : a ∈ missing (agents ++ [c]) new) : a ≠ c := by
        rintro rfl
        have absent := (mem_missing.mp ha).2
        simp at absent
      rw [missing_cons_of_notMem there, List.pairwise_cons]
      constructor
      · intro b hb
        rw [List.idxOf_cons_self, later (others hb)]
        omega
      · refine (ih _).imp_of_mem fun {a b} ha hb before => ?_
        rw [later (others ha), later (others hb)]
        omega

variable {dev : DevAgents} {m : Machine}

lemma mem_setDev_true (h : a ∈ dev.installOrder) : a ∈ (m.setDev dev true).agents :=
  mem_foldl_install.mpr (Or.inr h)

lemma nodup_setDev_true (h : m.agents.Nodup) : (m.setDev dev true).agents.Nodup := by
  rw [setDev_true, List.nodup_append]
  refine ⟨h, nodup_missing _ _, fun a ha b hb => ?_⟩
  rintro rfl
  exact (mem_missing.mp hb).2 ha

lemma setDev_true_twice : (m.setDev dev true).setDev dev true = m.setDev dev true :=
  congrArg (fun agents => { m with agents }) flagged_true_twice

/-- Setting the flag puts behind the agents those developer agents that are missing, each once and
in the order of installation, and changes nothing else. Then all of them are listed, the flag is
set, no agent is listed twice that was not, and setting the flag again changes nothing. -/
theorem setDev_appends (dev : DevAgents) (m : Machine) :
    let order := [dev.workspace, dev.ssh, dev.terminal]
    let r := m.setDev dev true
    (∃ new : Agents, r = { m with agents := m.agents ++ new } ∧ new.Nodup ∧
      (∀ a, a ∈ new ↔ a ∈ order ∧ a ∉ m.agents) ∧
      new.Pairwise fun a b => order.idxOf a < order.idxOf b) ∧
    (∀ a ∈ order, a ∈ r.agents) ∧ r.isDev dev = true ∧ (m.agents.Nodup → r.agents.Nodup) ∧
    r.setDev dev true = r := by
  intro order r
  refine ⟨?added, fun _ => mem_setDev_true, isDev_setDev_true, nodup_setDev_true,
    setDev_true_twice⟩
  case added =>
    exact ⟨missing m.agents order, setDev_true dev m, nodup_missing _ _, fun _ => mem_missing,
      pairwise_missing _ _⟩

/-- A terminal agent that is the workspace agent, and an ssh agent that is there. -/
theorem setDev_appends_coinciding :
    let dev : DevAgents := ⟨"ws", "ssh", "ws"⟩
    let m : Machine := { Machine.new "web" ⟨.dockerImage, .absent, .empty⟩ with
      agents := ["ssh", "vim"] }
    let r := m.setDev dev true
    r.agents.Nodup ∧ r.isDev dev = true ∧ r.setDev dev true = r ∧
      r.agents = ["ssh", "vim", "ws"] := by
  intro dev m r
  obtain ⟨_, _, flag, nodup, again⟩ := setDev_appends dev m
  exact ⟨nodup (by decide), flag, again, by decide⟩

end Machine
end Workspace
