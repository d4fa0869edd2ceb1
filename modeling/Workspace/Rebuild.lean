import Workspace.Machine.MemoryLimit

/-! Merging edited machines back into a document. Of each machine the memory limit, the
agents and the servers are written, all else in the document stays. A machine the
document lacks is created; one that is not among the edited machines is kept. A field
that is absent or null stays so while the machine has nothing to put there. -/
namespace Workspace

namespace MachineConfig

/-- The attributes with the limit of the machine, or without one. -/
def mergeLimit (attributes : Presence (Dict Json)) (limit? : Option Json) :
    Presence (Dict Json) :=
  match limit? with
  | some limit => .set ((attributes.get?.getD .empty).insert Machine.limitKey limit)
  | none => attributes.map fun a => a.erase Machine.limitKey

/-- The field with a new value, which is written if the config is new, the value not
empty, or the field set before. -/
def mergeField {α : Type} (created nothing : Bool) (old : Presence α) (new : α) : Presence α :=
  if created || !nothing || old.isSet then .set new else old

/-- The config of a machine, if there was one, with what the machine says. -/
def merge (config? : Option MachineConfig) (m : Machine) : MachineConfig :=
  let created := config?.isNone
  let config := config?.getD .blank
  { attributes := mergeLimit config.attributes (m.attributes.get? Machine.limitKey)
    agents := mergeField created m.agents.isEmpty config.agents m.agents
    servers := mergeField created m.servers.isEmpty config.servers m.servers
    extra := config.extra }

end MachineConfig

namespace Environment

def mergeMachine (e : Environment) (m : Machine) : Environment :=
  { e with machines := e.machines.insert m.name (.merge (e.machines.get? m.name) m) }

/-- The document with the machines merged in one after the other. -/
def rebuild (e : Environment) (machines : List Machine) : Environment :=
  machines.foldl mergeMachine e

end Environment

end Workspace
