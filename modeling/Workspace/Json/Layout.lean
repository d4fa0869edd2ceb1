import Workspace.Json.Writer

/-! Values as they are written. A record writes its own members first and further ones
after them, not in the order of the keys, and a key may occur twice. A layout keeps the
written order; as text it is written as it stands, and as a value it is the object in
which of members with one key the last stands. -/
namespace Workspace.Json

inductive Layout where
  | value (v : Json)
  | list (items : List Layout)
  | record (members : List (String × Layout))

namespace Layout

mutual

def toJson : Layout → Json
  | .value v => v
  | .list items => .list (itemValues items)
  | .record members => .ofMembers (memberValues members)

def itemValues : List Layout → List Json
  | [] => []
  | item :: rest => item.toJson :: itemValues rest

def memberValues : List (String × Layout) → List (String × Json)
  | [] => []
  | (key, layout) :: rest => (key, layout.toJson) :: memberValues rest

end

mutual

def write (style : Style) (depth : Nat) : Layout → List Char
  | .value v => v.write style depth
  | .list items => style.enclose depth '[' ']' (writeItems style (depth + 1) items)
  | .record members =>
    style.enclose depth '{' '}' (writeMembers style (depth + 1) members)

def writeItems (style : Style) (depth : Nat) : List Layout → List (List Char)
  | [] => []
  | item :: rest => item.write style depth :: writeItems style depth rest

def writeMembers (style : Style) (depth : Nat) :
    List (String × Layout) → List (List Char)
  | [] => []
  | (key, layout) :: rest =>
    style.member key (layout.write style depth) :: writeMembers style depth rest

end

def compact (l : Layout) : String := String.ofList (l.write .compact 0)

def pretty (l : Layout) : String := String.ofList (l.write .indented 0)

/-- Further members, in the order of their keys. -/
def members (m : Dict Json) : List (String × Layout) :=
  m.toList.map fun e => (e.1, .value e.2)

def string (s : String) : Layout := .value (.string s)

end Layout

end Workspace.Json
