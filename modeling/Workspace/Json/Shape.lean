import Workspace.Json.Fault

/-! Shapes: what is asked of a value before a typed record is made of it. The same shapes
direct the reading of a text, which then reports the first place that does not fit. In a
value the members of an object are visited in the order of their keys. -/
namespace Workspace.Json

/-- Whether a field may be left out, or left out and also written as null. -/
inductive Need where
  | required | optional | nullable
deriving DecidableEq

structure RecordField (σ : Type) where
  name : String
  need : Need
  shape : σ

/-- How a record may be written, and what becomes of members that are not its fields. -/
inductive Form where
  /-- An object; other members are kept. -/
  | extensible
  /-- An object; other members are skipped. -/
  | closed
  /-- Likewise, or the list of the fields in order, of which optional ones may be missing
  at the end. -/
  | positional
deriving DecidableEq

inductive Shape where
  | any
  | string
  | list (item : Shape)
  /-- An object with any keys and values of one shape. -/
  | dict (item : Shape)
  | record (title : String) (form : Form) (fields : List (RecordField Shape))

/-- An object with any content. -/
def Shape.object : Shape := .dict .any

def RecordField.find? (fields : List (RecordField Shape)) (key : String) :
    Option (RecordField Shape) :=
  fields.find? fun f => f.name == key

/-- The first required field without a member. -/
def RecordField.missing? (fields : List (RecordField Shape)) (members : Dict Json) :
    Option String :=
  (fields.find? fun f => f.need == .required && !members.contains f.name).map RecordField.name

/-- The value of a field may be null. -/
def RecordField.allows (f : RecordField Shape) : Json → Bool
  | .null => f.need == .nullable
  | _ => false

namespace Shape

/-- What a message says is wanted; of `any`, never asked. -/
def wanted : Shape → Wanted
  | .any | .dict _ => .dict
  | .string => .string
  | .list _ => .list
  | .record title .. => .record title

def wrongType (s : Shape) (v : Json) : Except Mismatch Unit :=
  .error (.wrongType (.of v) s.wanted)

mutual

/-- Reports the first place where a value does not fit the shape. -/
def check : Json → Shape → Except Mismatch Unit
  | _, .any => .ok ()
  | .string _, .string => .ok ()
  | .list items, .list item => checkItems items item
  | .object members, .dict item => checkMembers members fun _ => some ⟨"", .required, item⟩
  | .object members, .record _ _ fields => do
    checkMembers members (RecordField.find? fields)
    match RecordField.missing? fields members with
    | some name => .error (.missing name)
    | none => .ok ()
  | .list items, .record title .positional fields =>
    checkFields items 0 title fields
  | v, s => s.wrongType v

def checkItems : List Json → Shape → Except Mismatch Unit
  | [], _ => .ok ()
  | v :: rest, item => do
    check v item
    checkItems rest item

/-- Members without a field may be anything. -/
def checkMembers {lo : Option String} :
    Chain Json lo → (String → Option (RecordField Shape)) → Except Mismatch Unit
  | .nil, _ => .ok ()
  | .cons key _ v rest, field? => do
    match field? key with
    | some f => if f.allows v then pure () else check v f.shape
    | none => pure ()
    checkMembers rest field?

/-- The items of a list as the fields of a record, of which some were seen before. -/
def checkFields : List Json → Nat → String → List (RecordField Shape) → Except Mismatch Unit
  | [], seen, title, fields =>
    if fields.any fun f => f.need == .required then
      .error (.tooShort seen title (seen + fields.length))
    else .ok ()
  | v :: rest, seen, title, f :: fields => do
    if f.allows v then pure () else check v f.shape
    checkFields rest (seen + 1) title fields
  | _ :: rest, seen, _, [] => .error (.tooLong (seen + rest.length + 1))

end

end Shape

/-- The members of a record of the given shape, whichever way it is written. -/
def fieldsOf : Shape → Json → Dict Json
  | .record _ _ fields, .list items => Dict.ofList ((fields.map RecordField.name).zip items)
  | _, v => v.asDict

end Workspace.Json
