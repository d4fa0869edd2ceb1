import Workspace.Machine
import Workspace.Text.Blank
import Workspace.Text.Digits

/-! The memory limit of a machine, in bytes. It is stored as a number or as a text holding
one. Fractions are rounded away from zero and numbers beyond the word are clamped to it;
whatever is not a number, and zero, counts as not set. -/
namespace Workspace.Machine

/-- The attribute that holds the limit. -/
def limitKey : String := "memoryLimitBytes"

/-- What is reported when no limit is set. -/
def unlimited : Int64 := -1

/-- The nearest word. -/
def clamp (i : Int) : Int64 :=
  if i < -0x8000000000000000 then Int64.minValue
  else if 0x8000000000000000 ≤ i then Int64.maxValue
  else Int64.ofInt i

/-- A number that is no word is read as the double nearest to it. -/
def numberLimit? (n : Json.Number) : Option Int64 :=
  match n.int64? with
  | some limit => some limit
  | none => n.double?.map fun x => clamp x.awayFromZero

/-- The number stored, be it zero. -/
def storedLimit? : Json → Option Int64
  | .number n => numberLimit? n
  | .string s => Text.int64? (Text.trim s.toList)
  | _ => none

def memoryLimit (m : Machine) : Int64 :=
  match (m.attributes.get? limitKey).bind storedLimit? with
  | some limit => if limit = 0 then unlimited else limit
  | none => unlimited

def setMemoryLimit (limit : Int64) (m : Machine) : Machine :=
  { m with attributes := Dict.insert m.attributes limitKey (.ofInt64 limit) }

/-! A text with blanks around it, a fraction, and a number beyond the word. -/

example : storedLimit? (.string " +007\n") = some 7 := by decide +kernel

example : (Json.Binary64.ofDecimal? true 15 (-1)).bind (numberLimit? ∘ .double) = some (-2) := by
  decide +kernel

example : numberLimit? (.natural 0xffffffffffffffff (by decide)) = some Int64.maxValue := by
  decide +kernel

end Workspace.Machine
