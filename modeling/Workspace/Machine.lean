import Workspace.Environment
import Workspace.Json.Decoder

/-! Machines as they are edited: each holds copies of everything, so an edit stays with the
machine until the list of machines is merged back into a document. -/
namespace Workspace
open Json (Shape Layout Decoder)

structure Machine where
  name : String
  recipe : Recipe
  attributes : Dict Json
  agents : Agents
  servers : Servers

namespace Machine

/-- A machine with nothing set. -/
def new (name : String) (recipe : Recipe) : Machine := ⟨name, recipe, .empty, [], .empty⟩

def shape : Shape :=
  .record "EnvironmentManagerMachine" .positional
    [⟨"name", .required, .string⟩, ⟨"recipe", .required, Recipe.shape⟩,
     ⟨"attributes", .optional, .object⟩, ⟨"agents", .optional, Agents.shape⟩,
     ⟨"servers", .optional, Servers.shape⟩]

def ofJson (v : Json) : Machine :=
  let field (key : String) := ((Json.fieldsOf shape v).get? key).getD .null
  { name := (field "name").asString
    recipe := .ofJson (field "recipe")
    attributes := (field "attributes").asDict
    agents := .ofJson (field "agents")
    servers := .ofJson (field "servers") }

def decoder : Decoder Machine := ⟨shape, ofJson⟩

def layout (m : Machine) : Layout :=
  .record [("name", .string m.name), ("recipe", m.recipe.layout),
    ("attributes", .value (.object m.attributes)), ("agents", .value m.agents.toJson),
    ("servers", .value m.servers.toJson)]

def same (m n : Machine) : Bool :=
  m.name == n.name && m.recipe.same n.recipe && m.attributes.agree Json.same n.attributes &&
    m.agents == n.agents && m.servers.same n.servers

end Machine

end Workspace
