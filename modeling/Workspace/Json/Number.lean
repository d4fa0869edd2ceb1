import Workspace.Json.Shortest

/-! Numbers as a document holds them. A whole number is kept as such where it fits a
64-bit word; every other literal, and minus zero, is a double. The kinds are not mixed:
`1` and `1.0` are different numbers. -/
namespace Workspace.Json

inductive Number where
  | natural (n : Nat) (h : n < 0x10000000000000000)
  /-- The number `-n`. -/
  | negative (n : Nat) (h : 0 < n ∧ n ≤ 0x8000000000000000)
  | double (x : Binary64)
deriving DecidableEq

namespace Number

/-- Equality of values of one kind. -/
def same : Number → Number → Bool
  | .natural n _, .natural m _ => n == m
  | .negative n _, .negative m _ => n == m
  | .double x, .double y => x.same y
  | _, _ => false

/-- The number of an integer literal, unless it is out of range. -/
def ofInteger? (minus : Bool) (n : Nat) : Option Number :=
  if minus then
    if h : 0 < n ∧ n ≤ 0x8000000000000000 then some (.negative n h)
    else (Binary64.ofDecimal? true n 0).map .double
  else
    if h : n < 0x10000000000000000 then some (.natural n h)
    else (Binary64.ofDecimal? false n 0).map .double

/-- A count; one beyond the word is clamped to it. -/
def ofNat (n : Nat) : Number :=
  if h : n < 0x10000000000000000 then .natural n h else .natural 0xffffffffffffffff (by decide)

def ofInt64 (i : Int64) : Number :=
  if h : i.toInt < 0 then
    .negative i.toInt.natAbs (by have := Int64.le_toInt i; omega)
  else .natural i.toInt.natAbs (by have := Int64.toInt_lt i; omega)

/-- The word of the same value, unless the number is a double or beyond the word. -/
def int64? : Number → Option Int64
  | .natural n _ => if n < 0x8000000000000000 then some (Int64.ofInt n) else none
  | .negative n _ => some (Int64.ofInt (-n))
  | .double _ => none

/-- The nearest double. -/
def double? : Number → Option Binary64
  | .natural n _ => Binary64.ofDecimal? false n 0
  | .negative n _ => Binary64.ofDecimal? true n 0
  | .double x => some x

def text : Number → List Char
  | .natural n _ => Nat.toDigits 10 n
  | .negative n _ => '-' :: Nat.toDigits 10 n
  | .double x => x.text

end Number

end Workspace.Json
