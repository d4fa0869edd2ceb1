import Workspace.Presence

/-! Recipes: how the runtime of an environment is constructed. -/
namespace Workspace
open Json (Shape Layout Decoder)

/-- The format of a recipe. A type that is not known is kept as it is written. -/
inductive RecipeType where
  /-- A single image reference. -/
  | dockerImage
  /-- The content of a build file, or a link to it. -/
  | dockerfile
  /-- A file of several services. -/
  | compose
  | other (name : String)
deriving DecidableEq

namespace RecipeType

def ofText (s : String) : RecipeType :=
  if s = "dockerimage" then .dockerImage
  else if s = "dockerfile" then .dockerfile
  else if s = "compose" then .compose
  else .other s

def text : RecipeType → String
  | .dockerImage => "dockerimage"
  | .dockerfile => "dockerfile"
  | .compose => "compose"
  | .other name => name

def layout (t : RecipeType) : Layout := .string t.text

def shape : Shape := .string

def ofJson (v : Json) : RecipeType := ofText v.asString

def decoder : Decoder RecipeType := ⟨shape, ofJson⟩

end RecipeType

/-- A recipe has a type and a location whose meaning hangs on the type. Inline content and
any other members are extras. -/
structure Recipe where
  type : RecipeType
  location : Presence String
  extra : Dict Json

namespace Recipe

def shape : Shape :=
  .record "RecipeDescriptor" .extensible
    [⟨"type", .required, .string⟩, ⟨"location", .nullable, .string⟩]

/-- The recipe a value of the shape describes. -/
def ofJson (v : Json) : Recipe :=
  let members := Json.fieldsOf shape v
  { type := .ofText ((members.get? "type").getD .null).asString
    location := .ofMember members "location" Json.asString
    extra := members.without ["type", "location"] }

def decoder : Decoder Recipe := ⟨shape, ofJson⟩

def layout (r : Recipe) : Layout :=
  .record (("type", r.type.layout) :: r.location.member "location" .string ++
    Layout.members r.extra)

/-- The inline body. -/
def content? (r : Recipe) : Option String := (r.extra.get? "content").bind Json.asString?

def same (r r' : Recipe) : Bool :=
  r.type == r'.type && r.location == r'.location && r.extra.agree Json.same r'.extra

end Recipe

end Workspace
