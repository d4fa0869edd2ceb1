import Workspace.Json.Decoder
import Workspace.Json.Layout

/-! A member of an object that may be left out, written as null, or set. The three are
kept apart, so what is read is written back the same way. -/
namespace Workspace

inductive Presence (α : Type) where
  | absent
  | null
  | set (a : α)
deriving DecidableEq

namespace Presence
variable {α β : Type}

def map (f : α → β) : Presence α → Presence β
  | .absent => .absent
  | .null => .null
  | .set a => .set (f a)

def get? : Presence α → Option α
  | .set a => some a
  | _ => none

def isSet (p : Presence α) : Bool := p.get?.isSome

def agree (same : α → α → Bool) : Presence α → Presence α → Bool
  | .absent, .absent => true
  | .null, .null => true
  | .set a, .set b => same a b
  | _, _ => false

/-- How the member with the key is present. -/
def ofMember (members : Dict Json) (key : String) (f : Json → α) : Presence α :=
  match members.get? key with
  | none => .absent
  | some .null => .null
  | some v => .set (f v)

/-- The member as it is written: not at all when it is absent. -/
def member (key : String) (f : α → Json) : Presence α → List (String × Json.Layout)
  | .absent => []
  | .null => [(key, .value .null)]
  | .set a => [(key, .value (f a))]

end Presence

end Workspace
