import Workspace.Proofs.Reload

/-! The machines of a document as they come and go. A step inserts a machine, removes one, or
rebuilds the document. It keeps the recipe, the extras and the remembered form of the machines,
and so does every run of steps. At any moment, then, the value of the document differs from the
one it was decoded from in the member for the machines alone, and without machines that member
is there in the form it was found in. -/
namespace Workspace
open Json Json.Layout

/-- A step of an editing run. -/
inductive Step where
  | insert (name : String) (config : MachineConfig)
  | remove (name : String)
  | rebuild (machines : List Machine)

/-- An object less its members; any other value as it is. -/
def Json.emptied : Json → Json
  | .object _ => .object Dict.empty
  | v => v

/-- What stands for the machines when there are none. -/
def MachinesForm.written : MachinesForm → Option Json
  | .object => some (.object Dict.empty)
  | .null => some .null
  | .absent => none

namespace Environment
variable {e : Environment} {v : Json}

def step (e : Environment) : Step → Environment
  | .insert name config => e.insertMachine name config
  | .remove name => e.removeMachine name
  | .rebuild machines => e.rebuild machines

/-- The document after the steps of a run. -/
def steps (e : Environment) (run : List Step) : Environment := run.foldl step e

end Environment
end Workspace
