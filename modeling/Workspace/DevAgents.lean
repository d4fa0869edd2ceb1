import Workspace.Json.Decoder
import Workspace.Json.Layout

/-! The agents that make a machine a developer machine. -/
namespace Workspace
open Json (Shape Layout Decoder)

structure DevAgents where
  /-- The workspace agent; it alone decides whether a machine is a developer machine. -/
  workspace : String
  ssh : String
  terminal : String
deriving DecidableEq

namespace DevAgents

def default : DevAgents :=
  ⟨"org.eclipse.che.ws-agent", "org.eclipse.che.ssh", "org.eclipse.che.terminal"⟩

/-- The defaults, less those that a variable replaces. An empty variable counts. -/
def ofVariables (lookup : String → Option String) : DevAgents where
  workspace := (lookup "ENV_MANAGER_WS_AGENT").getD default.workspace
  ssh := (lookup "ENV_MANAGER_SSH_AGENT").getD default.ssh
  terminal := (lookup "ENV_MANAGER_TERMINAL_AGENT").getD default.terminal

/-- The order in which the agents are installed. -/
def installOrder (a : DevAgents) : List String := [a.workspace, a.ssh, a.terminal]

def shape : Shape :=
  .record "DevAgents" .positional
    [⟨"ws_agent", .required, .string⟩, ⟨"ssh_agent", .required, .string⟩,
     ⟨"terminal_agent", .required, .string⟩]

def ofJson (v : Json) : DevAgents :=
  let field (key : String) := (((Json.fieldsOf shape v).get? key).getD .null).asString
  ⟨field "ws_agent", field "ssh_agent", field "terminal_agent"⟩

def decoder : Decoder DevAgents := ⟨shape, ofJson⟩

def layout (a : DevAgents) : Layout :=
  .record [("ws_agent", .string a.workspace), ("ssh_agent", .string a.ssh),
    ("terminal_agent", .string a.terminal)]

end DevAgents

end Workspace
