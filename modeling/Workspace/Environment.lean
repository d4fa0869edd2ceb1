import Workspace.Recipe
import Workspace.Server

/-! Environment documents: a recipe and a config for each named machine. Members that are
not known here are extras at every level and are written back untouched. -/
namespace Workspace
open Json (Shape Layout Decoder)

structure MachineConfig where
  attributes : Presence (Dict Json)
  agents : Presence Agents
  servers : Presence Servers
  extra : Dict Json

namespace MachineConfig

def shape : Shape :=
  .record "RawMachineConfig" .extensible
    [⟨"attributes", .nullable, .object⟩, ⟨"agents", .nullable, Agents.shape⟩,
     ⟨"servers", .nullable, Servers.shape⟩]

def ofJson (v : Json) : MachineConfig :=
  let members := Json.fieldsOf shape v
  { attributes := .ofMember members "attributes" Json.asDict
    agents := .ofMember members "agents" Agents.ofJson
    servers := .ofMember members "servers" Servers.ofJson
    extra := members.without ["attributes", "agents", "servers"] }

def decoder : Decoder MachineConfig := ⟨shape, ofJson⟩

def layout (c : MachineConfig) : Layout :=
  .record (c.attributes.member "attributes" .object ++ c.agents.member "agents" Agents.toJson ++
    c.servers.member "servers" Servers.toJson ++ Layout.members c.extra)

/-- A config that says no more than that there are no attributes. -/
def blank : MachineConfig := ⟨.set .empty, .absent, .absent, .empty⟩

def same (c d : MachineConfig) : Bool :=
  c.attributes.agree (Chain.agree Json.same) d.attributes && c.agents == d.agents &&
    c.servers.agree Servers.same d.servers && c.extra.agree Json.same d.extra

end MachineConfig

/-- How the machines were written when there were none: as an empty object, as null,
or not at all. -/
inductive MachinesForm where
  | object | null | absent
deriving DecidableEq

structure Environment where
  recipe : Recipe
  machines : Dict MachineConfig
  extra : Dict Json
  /-- Kept while machines come and go, and of effect when there are none. -/
  machinesForm : MachinesForm

namespace Environment

/-- An environment without machines. -/
def new (recipe : Recipe) : Environment := ⟨recipe, .empty, .empty, .object⟩

def shape : Shape :=
  .record "RawEnvironmentRepr" .extensible
    [⟨"recipe", .required, Recipe.shape⟩,
     ⟨"machines", .nullable, .dict MachineConfig.shape⟩]

def ofJson (v : Json) : Environment :=
  let members := Json.fieldsOf shape v
  let machines : Presence (Dict MachineConfig) :=
    .ofMember members "machines" fun m => m.asDict.mapValues MachineConfig.ofJson
  { recipe := .ofJson ((members.get? "recipe").getD .null)
    machines := machines.get?.getD .empty
    extra := members.without ["recipe", "machines"]
    machinesForm := match machines with
      | .absent => .absent
      | .null => .null
      | .set _ => .object }

def decoder : Decoder Environment := ⟨shape, ofJson⟩

/-- The machines as they are written: none at all in the form they were read in. -/
def machinesMember (e : Environment) : List (String × Layout) :=
  let entries := .record (e.machines.toList.map fun m => (m.1, m.2.layout))
  if e.machines.isEmpty then
    match e.machinesForm with
    | .object => [("machines", entries)]
    | .null => [("machines", .value .null)]
    | .absent => []
  else [("machines", entries)]

def layout (e : Environment) : Layout :=
  .record (("recipe", e.recipe.layout) :: e.machinesMember ++ Layout.members e.extra)

def toJson (e : Environment) : Json := e.layout.toJson

def pretty (e : Environment) : String := e.layout.pretty

def names (e : Environment) : List String := e.machines.keys

def insertMachine (e : Environment) (name : String) (c : MachineConfig) : Environment :=
  { e with machines := e.machines.insert name c }

def removeMachine (e : Environment) (name : String) : Environment :=
  { e with machines := e.machines.erase name }

/-- Sets a further member of the document, be it under the name of a known one. -/
def setExtra (e : Environment) (key : String) (v : Json) : Environment :=
  { e with extra := e.extra.insert key v }

def setLocation (e : Environment) (location : Presence String) : Environment :=
  { e with recipe := { e.recipe with location } }

/-- Document equality, which includes the remembered form of the machines. -/
def same (e f : Environment) : Bool :=
  e.recipe.same f.recipe && e.machines.agree MachineConfig.same f.machines &&
    e.extra.agree Json.same f.extra && e.machinesForm == f.machinesForm

end Environment

end Workspace
