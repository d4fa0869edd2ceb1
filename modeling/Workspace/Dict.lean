/-! Dictionaries keyed by text. Their entries stand in strictly ascending order of the
key, by code point, and the order is part of the type: a chain knows the bound its keys
lie above, so a repeated or misplaced key cannot be written down. Two dictionaries with
the same entries are therefore equal. -/
namespace Workspace
variable {α β : Type} {lo : Option String}

/-- A key may follow the bound when there is none, or when it is greater. -/
def Above : Option String → String → Prop
  | none, _ => True
  | some low, key => low < key

instance : (lo : Option String) → (key : String) → Decidable (Above lo key)
  | none, _ => .isTrue trivial
  | some low, key => inferInstanceAs (Decidable (low < key))

/-- Entries with ascending keys, all above the bound. -/
inductive Chain (α : Type) : Option String → Type where
  | nil {lo : Option String} : Chain α lo
  | cons {lo : Option String} (key : String) (above : Above lo key) (value : α)
      (rest : Chain α (some key)) : Chain α lo

/-- A dictionary is a chain without a bound. -/
abbrev Dict (α : Type) := Chain α none

theorem Above.trans {low key : String} (h : Above lo low) (h' : low < key) :
    Above lo key := by
  cases lo with
  | none => trivial
  | some l => exact String.lt_trans h h'

theorem lt_of_not_lt_of_ne {a b : String} (h : ¬ a < b) (h' : a ≠ b) : b < a := by
  grind

namespace Chain

def toList {lo : Option String} : Chain α lo → List (String × α)
  | .nil => []
  | .cons key _ value rest => (key, value) :: rest.toList

def get? {lo : Option String} : Chain α lo → String → Option α
  | .nil, _ => none
  | .cons key _ value rest, k =>
    if k = key then some value else rest.get? k

/-- Sets the value of a key, which takes its place in the order. -/
def put {lo : Option String} : Chain α lo → (k : String) → Above lo k → α → Chain α lo
  | .nil, k, h, v => .cons k h v .nil
  | .cons key above value rest, k, h, v =>
    if here : k = key then .cons key above v rest
    else if before : k < key then .cons k h v (.cons key before value rest)
    else .cons key above value (rest.put k (lt_of_not_lt_of_ne before here) v)

/-- The same entries under a lower bound. -/
def lower {low : String} (h : Above lo low) : Chain α (some low) → Chain α lo
  | .nil => .nil
  | .cons key above value rest => .cons key (h.trans above) value rest

def erase {lo : Option String} : Chain α lo → String → Chain α lo
  | .nil, _ => .nil
  | .cons key above value rest, k =>
    if k = key then rest.lower above
    else .cons key above value (rest.erase k)

def mapValues (f : α → β) {lo : Option String} : Chain α lo → Chain β lo
  | .nil => .nil
  | .cons key above value rest => .cons key above (f value) (rest.mapValues f)

def isEmpty : Chain α lo → Bool
  | .nil => true
  | .cons .. => false

def contains (m : Chain α lo) (k : String) : Bool := (m.get? k).isSome

def keys (m : Chain α lo) : List String := m.toList.map Prod.fst

def size (m : Chain α lo) : Nat := m.toList.length

/-- Both hold the same keys, with values related pairwise. -/
def agree (same : α → α → Bool) {lo lo' : Option String} :
    Chain α lo → Chain α lo' → Bool
  | .nil, .nil => true
  | .cons key _ value rest, .cons key' _ value' rest' =>
    key == key' && same value value' && rest.agree same rest'
  | _, _ => false

end Chain

namespace Dict

def empty : Dict α := .nil

instance : Inhabited (Dict α) := ⟨empty⟩

def insert (m : Dict α) (key : String) (value : α) : Dict α := m.put key trivial value

/-- Of entries with the same key the last one stands. -/
def ofList (entries : List (String × α)) : Dict α :=
  entries.foldl (fun m e => m.insert e.1 e.2) empty

/-- The dictionary less the given keys. -/
def without (m : Dict α) (keys : List String) : Dict α := keys.foldl Chain.erase m

end Dict

end Workspace
