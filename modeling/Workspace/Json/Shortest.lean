import Workspace.Json.Binary64

/-! The decimal text of a double: the fewest digits that read back to it, of those the
nearest to it, and of two equally near the one with an even last digit. The digits are
found by search, on the decimal grids of 1, 2, ... 17 digits; the exact expansion stands
behind the search, so whatever is written always reads back. -/
namespace Workspace.Json

/-- A decimal magnitude `digits * 10^exponent`. -/
structure Decimal where
  digits : Nat
  exponent : Int
deriving DecidableEq

namespace Decimal

/-- The double nearest to the decimal. -/
def nearest? (negative : Bool) (d : Decimal) : Option Binary64 :=
  Binary64.ofDecimal? negative d.digits d.exponent

/-- The exponent `k` with `10^(k-1) ≤ x < 10^k`, for a positive double. -/
def top (x : Binary64) : Int :=
  if Binary64.one ≤ x.units then Binary64.decimalLength (x.units / Binary64.one)
  else 1 - (Binary64.decimalLength ((Binary64.one - 1) / x.units) : Int)

/-- The two neighbours of the magnitude of `x` on the grid of `10^exponent`, the nearer
one first, an even one before an odd one when both are as near. -/
def neighbours (x : Binary64) (exponent : Int) : List Decimal :=
  let a := x.units * Nat.pow 10 (-exponent).toNat
  let d := Binary64.one * Nat.pow 10 exponent.toNat
  let low := a / d
  let r := 2 * (a % d)
  if r < d ∨ (r = d ∧ low % 2 = 0) then [⟨low, exponent⟩, ⟨low + 1, exponent⟩]
  else [⟨low + 1, exponent⟩, ⟨low, exponent⟩]

/-- The magnitude of `x` without rounding. -/
def exact (x : Binary64) : Decimal :=
  if 1074 ≤ x.scale then ⟨x.significand * Nat.pow 2 (x.scale - 1074), 0⟩
  else ⟨x.significand * Nat.pow 5 (1074 - x.scale), (x.scale : Int) - 1074⟩

/-- The shortest decimal that reads back to `x`. -/
def shortest (x : Binary64) : Decimal :=
  let grids := (List.range 17).map fun n : Nat => top x - (n + 1)
  ((grids.flatMap (neighbours x)).find? fun d => d.nearest? x.negative == some x).getD (exact x)

end Decimal

/-- Zeros at the end of a list of digits, taken off. -/
def stripZeros (digits : List Char) : List Char :=
  (digits.reverse.dropWhile (· == '0')).reverse

/-- The text of `digits * 10^exponent`, with a point or an exponent: plain when the first
digit stands for `10^-5` up to `10^15`, else with one digit before the point. The sign of
the exponent is always written. -/
def Decimal.text (d : Decimal) : List Char :=
  let all := Nat.toDigits 10 d.digits
  let ds := stripZeros all
  -- The place of the point, counted from the first digit.
  let point : Int := all.length + d.exponent
  if point < -4 ∨ 16 < point then
    let e := point - 1
    let mantissa := match ds with
      | first :: second :: rest => first :: '.' :: second :: rest
      | short => short
    mantissa ++ 'e' :: (if e < 0 then '-' else '+') :: Nat.toDigits 10 e.natAbs
  else if point ≤ 0 then '0' :: '.' :: (List.replicate (-point).toNat '0' ++ ds)
  else if ds.length ≤ point.toNat then
    ds ++ (List.replicate (point.toNat - ds.length) '0' ++ ['.', '0'])
  else ds.take point.toNat ++ '.' :: ds.drop point.toNat

/-- The text of a double. -/
def Binary64.text (x : Binary64) : List Char :=
  (if x.negative then ['-'] else []) ++
    if x.units = 0 then ['0', '.', '0'] else (Decimal.shortest x).text

/-! Where the plain form ends, at both ends. -/

example : Decimal.text ⟨1, -5⟩ = "0.00001".toList := by decide

example : Decimal.text ⟨15, -7⟩ = "1.5e-6".toList := by decide

example : Decimal.text ⟨1, 15⟩ = "1000000000000000.0".toList := by decide

example : Decimal.text ⟨1, 16⟩ = "1e+16".toList := by decide

/-! The least double, and one whose exact expansion is long. -/

example : Binary64.text ⟨false, 1, 0, by decide⟩ = "5e-324".toList := by decide +kernel

example : (Binary64.ofDecimal? true 3 (-1)).map Binary64.text = some "-0.3".toList := by
  decide +kernel

end Workspace.Json
