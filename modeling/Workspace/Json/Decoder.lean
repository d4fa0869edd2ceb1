import Workspace.Json.Reader

/-! Decoding into typed records, from a text or from a value. Both check the same shape and
make the record of the same value; they differ in what they report first when something
is wrong. -/
namespace Workspace.Json

structure Decoder (α : Type) where
  shape : Shape
  /-- The record that a value of the shape stands for. -/
  make : Json → α

namespace Decoder
variable {α : Type}

def ofText (d : Decoder α) (text : String) : Except Fault α :=
  (d.shape.parse text.toList).map d.make

def ofValue (d : Decoder α) (v : Json) : Except Fault α :=
  match d.shape.check v with
  | .ok () => .ok (d.make v)
  | .error m => .error (.mismatched m)

end Decoder

end Workspace.Json
