import Workspace.Json.Fault
import Workspace.Recipe

/-! What can go wrong while an environment is translated. -/
namespace Workspace

/-- Operations on a document that a translator may refuse. -/
inductive Operation where
  | renameMachine | deleteMachine
deriving DecidableEq

def Operation.text : Operation → String
  | .renameMachine => "rename machine"
  | .deleteMachine => "delete machine"

inductive Error where
  /-- The translator for this type of recipe does not offer the operation. -/
  | unsupportedOperation (operation : Operation) (type : RecipeType)
  /-- There is no translator for this type of recipe. -/
  | unsupportedRecipeType (type : RecipeType)
  | json (fault : Json.Fault)
deriving DecidableEq

namespace Error

def isUnsupportedOperation : Error → Bool
  | .unsupportedOperation .. => true
  | _ => false

def message : Error → String
  | .unsupportedOperation operation type =>
    type.text ++ " environment manager: cannot " ++ operation.text
  | .unsupportedRecipeType type => "unsupported recipe type: " ++ type.text
  | .json fault => "JSON parsing error: " ++ fault.message

end Error

end Workspace
