import Workspace.Json.Decoder
import Workspace.Json.Layout

/-! Where the runtime of a machine comes from. A text that is grammatical but of another
shape has one message, whatever is wrong with it: none of the variants fits. -/
namespace Workspace
open Json (Shape Layout Fault)

inductive Source where
  /-- A reference to an image. -/
  | image (reference : String)
deriving DecidableEq

namespace Source

def shape : Shape := .record "MachineSource" .closed [⟨"image", .required, .string⟩]

def ofJson (v : Json) : Source :=
  .image (((Json.fieldsOf shape v).get? "image").getD .null).asString

def noVariant : Fault := .mismatched (.noVariant "MachineSource")

def ofValue (v : Json) : Except Fault Source :=
  match shape.check v with
  | .ok () => .ok (ofJson v)
  | .error _ => .error noVariant

/-- The grammar of the value is checked before its shape, and what follows it last. -/
def ofText (text : String) : Except Fault Source := do
  let (_, rest) ← Shape.any.read Json.nestingLimit text.toList
  match shape.read Json.nestingLimit text.toList with
  | .ok (v, _) =>
    if (Json.skipSpace rest).isEmpty then .ok (ofJson v)
    else .error (.malformed .trailingText)
  | .error _ => .error noVariant

def layout : Source → Layout
  | .image reference => .record [("image", .string reference)]

end Source

end Workspace
