import Workspace.Rebuild
import Workspace.Machine.DevFlag
import Workspace.Source
import Workspace.Error

/-! Translators between documents and machines, one for each supported type of recipe. A
translator says how machines are taken out of a document and where a machine comes from;
all else has a common answer. -/
namespace Workspace

/-- What a translator allows to be done with a machine. -/
structure Capabilities where
  rename : Bool
  delete : Bool
  add : Bool
  editVariables : Bool
deriving DecidableEq

structure Translator where
  type : RecipeType
  devAgents : DevAgents
  /-- The machines of a document, in the order of their names. -/
  machines : Environment → List Machine
  source : Machine → Source

namespace Translator

/-- The display mode of recipe editors; there is none. -/
def editorMode (_ : Translator) : String := ""

def capabilities (_ : Translator) (_ : Machine) : Capabilities := ⟨false, false, false, false⟩

/-- The variables of a machine; there are none. -/
def machineVariables? (_ : Translator) (_ : Machine) : Option (Dict String) := none

def renameMachine (t : Translator) (_ : Environment) (_ _ : String) : Except Error Environment :=
  .error (.unsupportedOperation .renameMachine t.type)

def deleteMachine (t : Translator) (_ : Environment) (_ : String) : Except Error Environment :=
  .error (.unsupportedOperation .deleteMachine t.type)

def isDev (t : Translator) (m : Machine) : Bool := m.isDev t.devAgents

def setDev (t : Translator) (flag : Bool) (m : Machine) : Machine := m.setDev t.devAgents flag

/-- The image of a machine is the location of its recipe. -/
def imageOf (m : Machine) : Source := .image (m.recipe.location.get?.getD "")

/-- The machine a config stands for: what is set is copied, what is not stays empty. -/
def machineOf (recipe : Recipe) (name : String) (c : MachineConfig) : Machine :=
  { name, recipe
    attributes := c.attributes.get?.getD .empty
    agents := c.agents.get?.getD []
    servers := c.servers.get?.getD .empty }

/-- The machines of an environment that is made of a single image. -/
def imageMachines (e : Environment) : List Machine :=
  e.machines.toList.map fun m => machineOf e.recipe m.1 m.2

/-- The translator for recipes that are a single image. -/
def dockerImage (devAgents : DevAgents) : Translator :=
  ⟨.dockerImage, devAgents, imageMachines, imageOf⟩

/-- A translator that knows the machines by name only. -/
def bare (type : RecipeType) (devAgents : DevAgents) : Translator :=
  ⟨type, devAgents, fun e => e.names.map fun name => .new name e.recipe, imageOf⟩

/-- The translator for a type of recipe. -/
def select (type : RecipeType) (devAgents : DevAgents) : Except Error Translator :=
  match type with
  | .dockerImage => .ok (dockerImage devAgents)
  | type => .error (.unsupportedRecipeType type)

end Translator

end Workspace
