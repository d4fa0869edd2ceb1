import Workspace.Machine
import Workspace.DevAgents

/-! The developer flag of a machine: the workspace agent is among its agents. Setting the
flag installs the developer agents that are missing, clearing it removes the workspace
agent where it stands first. -/
namespace Workspace.Machine

def isDev (dev : DevAgents) (m : Machine) : Bool := m.agents.contains dev.workspace

/-- Adds an agent behind the others, unless it is there. -/
def install (agents : Agents) (agent : String) : Agents :=
  if agents.contains agent then agents else agents ++ [agent]

def setDev (dev : DevAgents) (flag : Bool) (m : Machine) : Machine :=
  { m with agents :=
      if flag then dev.installOrder.foldl install m.agents else m.agents.erase dev.workspace }

end Workspace.Machine
