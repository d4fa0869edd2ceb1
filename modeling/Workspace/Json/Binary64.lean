/-! Finite doubles, kept exactly. A magnitude is a whole number of units, one unit being
the least positive double `1 / 2^1074`, so rounding and comparing need natural numbers
only. Reading a decimal gives the nearest double, a half going to the even significand. -/
namespace Workspace.Json

/-- The normal form: a significand of at most 53 bits, and of no less unless the scale is
the smallest. -/
structure Binary64.Canonical (significand scale : Nat) : Prop where
  lt : significand < 0x20000000000000
  full : 0x10000000000000 ≤ significand ∨ scale = 0
  le : scale ≤ 2045

/-- A finite double, of magnitude `significand * 2^scale` units. -/
structure Binary64 where
  negative : Bool
  significand : Nat
  scale : Nat
  canonical : Binary64.Canonical significand scale
deriving DecidableEq

namespace Binary64

instance (m p : Nat) : Decidable (Canonical m p) :=
  decidable_of_iff (m < 0x20000000000000 ∧ (0x10000000000000 ≤ m ∨ p = 0) ∧ p ≤ 2045)
    ⟨fun ⟨a, b, c⟩ => ⟨a, b, c⟩, fun ⟨a, b, c⟩ => ⟨a, b, c⟩⟩

/-- How many units make one. -/
def one : Nat := Nat.pow 2 1074

def zero (negative : Bool) : Binary64 := ⟨negative, 0, 0, by decide⟩

instance : Inhabited Binary64 := ⟨zero false⟩

/-- The magnitude in units. -/
def units (x : Binary64) : Nat := x.significand * Nat.pow 2 x.scale

/-- Equality of values: the two zeros are one value. -/
def same (x y : Binary64) : Bool :=
  x.units == y.units && (x.negative == y.negative || x.units == 0)

/-- The whole number nearest `a / d`, halves going to the even one. -/
def roundQuotient (a d : Nat) : Nat :=
  let q := a / d
  let r := a % d
  if 2 * r < d then q else if d < 2 * r then q + 1 else q + q % 2

/-- The scale at which `a / d` units has a significand of at most 53 bits. -/
def scaleFor (a d : Nat) : Nat :=
  let p := a.log2 - (d.log2 + 52)
  if 0 < p ∧ a < d * Nat.pow 2 (p + 52) then p - 1 else p

/-- The double nearest `a / d` units, unless that is out of range. -/
def ofQuotient? (negative : Bool) (a d : Nat) : Option Binary64 :=
  let p := scaleFor a d
  let m := roundQuotient a (d * Nat.pow 2 p)
  let (m, p) := if m = 0x20000000000000 then (0x10000000000000, p + 1) else (m, p)
  if h : Canonical m p then some ⟨negative, m, p, h⟩ else none

/-- How many decimal digits a number is written with. -/
def decimalLength (n : Nat) : Nat := (Nat.toDigits 10 n).length

/-- The double nearest `digits * 10^exponent`, unless that is out of range. The magnitudes
that are surely too large or round to zero are told by their length alone, so no power of
ten is formed for them. -/
def ofDecimal? (negative : Bool) (digits : Nat) (exponent : Int) : Option Binary64 :=
  let top := decimalLength digits + exponent
  if digits = 0 ∨ top < -400 then some (zero negative)
  else if 400 < top then none
  else if 0 ≤ exponent then
    ofQuotient? negative (digits * Nat.pow 10 exponent.toNat * one) 1
  else ofQuotient? negative (digits * one) (Nat.pow 10 (-exponent).toNat)

/-- The value rounded away from zero to a whole number. -/
def awayFromZero (x : Binary64) : Int :=
  let n := (x.units + (one - 1)) / one
  if x.negative then -n else n

end Binary64

end Workspace.Json
