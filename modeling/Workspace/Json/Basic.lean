import Workspace.Dict
import Workspace.Json.Number

/-! JSON values. The members of an object form a dictionary, so a value has one form and
equal values are written alike. Equality of documents is coarser in one point, the sign
of a zero double. -/
namespace Workspace

inductive Json where
  | null
  | bool (b : Bool)
  | number (n : Json.Number)
  | string (s : String)
  | list (items : List Json)
  | object (members : Chain Json none)

namespace Json

instance : Inhabited Json := ⟨.null⟩

mutual

/-- Document equality: equal but for the sign of zero doubles. -/
def same : Json → Json → Bool
  | .null, .null => true
  | .bool a, .bool b => a == b
  | .number m, .number n => m.same n
  | .string s, .string t => s == t
  | .list xs, .list ys => sameItems xs ys
  | .object m, .object n => sameMembers m n
  | _, _ => false

def sameItems : List Json → List Json → Bool
  | [], [] => true
  | x :: xs, y :: ys => same x y && sameItems xs ys
  | _, _ => false

def sameMembers {lo lo' : Option String} : Chain Json lo → Chain Json lo' → Bool
  | .nil, .nil => true
  | .cons key _ value rest, .cons key' _ value' rest' =>
    key == key' && same value value' && sameMembers rest rest'
  | _, _ => false

end

/-! Parts of a value; of a value of another kind, the empty one. -/

def asString? : Json → Option String
  | .string s => some s
  | _ => none

def asString (v : Json) : String := v.asString?.getD ""

def asBool? : Json → Option Bool
  | .bool b => some b
  | _ => none

def asList : Json → List Json
  | .list items => items
  | _ => []

def asDict : Json → Dict Json
  | .object members => members
  | _ => .empty

def ofNat (n : Nat) : Json := .number (.ofNat n)

def ofInt64 (i : Int64) : Json := .number (.ofInt64 i)

def ofStrings (items : List String) : Json := .list (items.map .string)

/-- An object from its members; of members with one key the last stands. -/
def ofMembers (members : List (String × Json)) : Json := .object (Dict.ofList members)

end Json

end Workspace
