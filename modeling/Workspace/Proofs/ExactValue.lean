import Mathlib.Algebra.Order.Floor.Div
import Mathlib.Data.Rat.Floor
import Mathlib.Tactic.Linarith
import Mathlib.Tactic.Positivity
import Workspace.Json.Number
import Workspace.Proofs.Rounding

/-! The exact value of a number, whichever kind it is of, and what rounding does to it. Rounding away
from zero keeps the order and the sign. Rounding to a double changes a whole number, but never
moves it across the power of two below it. -/
namespace Workspace.Json

/-- The exact value of a double. -/
def Binary64.value (x : Binary64) : ℚ := (if x.negative then -1 else 1) * (x.units / one)

/-- The exact value of a number. -/
def Number.value : Number → ℚ
  | .natural n _ => n
  | .negative n _ => -n
  | .double x => x.value

lemma Number.value_ofInt64 (n : Int64) : (Number.ofInt64 n).value = n.toInt := by
  by_cases h : n.toInt < 0
  · have magnitude : n.toInt = -(n.toInt.natAbs : ℤ) := by omega
    have value := congrArg (Int.cast : ℤ → ℚ) magnitude
    rw [Int.cast_neg, Int.cast_natCast] at value
    rw [ofInt64, dif_pos h, value]
    rfl
  · have magnitude : n.toInt = n.toInt.natAbs := by omega
    have value := congrArg (Int.cast : ℤ → ℚ) magnitude
    rw [Int.cast_natCast] at value
    rw [ofInt64, dif_neg h, value]
    rfl

/-! To a whole number, away from zero. -/

/-- The next whole number, seen from zero. -/
def roundedAway (q : ℚ) : ℤ := if 0 < q then ⌈q⌉ else ⌊q⌋

section RoundedAway
variable {q r : ℚ}

lemma roundedAway_intCast (i : ℤ) : roundedAway i = i := by
  by_cases h : (0 : ℚ) < i
  · rw [roundedAway, if_pos h, Int.ceil_intCast]
  · rw [roundedAway, if_neg h, Int.floor_intCast]

lemma roundedAway_pos (h : 0 < q) : 0 < roundedAway q := by
  rw [roundedAway, if_pos h]
  exact Int.ceil_pos.mpr h

lemma roundedAway_neg (h : q < 0) : roundedAway q < 0 := by
  rw [roundedAway, if_neg h.le.not_gt, Int.floor_lt]
  exact h

lemma roundedAway_eq_zero : roundedAway q = 0 ↔ q = 0 := by
  constructor
  · intro h
    rcases lt_trichotomy q 0 with below | zero | above
    · have away := roundedAway_neg below
      omega
    · exact zero
    · have away := roundedAway_pos above
      omega
  · rintro rfl
    exact roundedAway_intCast 0

lemma roundedAway_mono (h : q ≤ r) : roundedAway q ≤ roundedAway r := by
  by_cases hq : 0 < q
  · rw [roundedAway, roundedAway, if_pos hq, if_pos (hq.trans_le h)]
    exact Int.ceil_mono h
  by_cases hr : 0 < r
  · have low : roundedAway q ≤ 0 := by
      rw [roundedAway, if_neg hq]
      exact Int.floor_nonpos (not_lt.mp hq)
    have high := roundedAway_pos hr
    omega
  · rw [roundedAway, roundedAway, if_neg hq, if_neg hr]
    exact Int.floor_mono h

end RoundedAway

namespace Binary64
variable {a d e n : Nat}

/-- A quotient takes so many whole ones, the last of them in part. -/
lemma ceil_div (a : Nat) (hd : 0 < d) : ⌈(a / d : ℚ)⌉ = ((a + (d - 1)) / d : Nat) := by
  have positive : (0 : ℚ) < d := by exact_mod_cast hd
  have natural : ⌈(a / d : ℚ)⌉₊ = a ⌈/⌉ d := by
    refine eq_of_forall_ge_iff fun c => ?_
    rw [Nat.ceil_le, div_le_iff₀' positive, ceilDiv_le_iff_le_mul hd]
    exact_mod_cast Iff.rfl
  rw [← Int.natCast_ceil_eq_ceil (by positivity), natural, Nat.ceilDiv_eq_add_pred_div,
    Nat.add_sub_assoc hd]

lemma one_pos : 0 < one := by
  obtain ⟨i, unit⟩ : ∃ i, one = Nat.pow 2 i := ⟨1074, Decimal.one_eq⟩
  rw [unit]
  exact Nat.two_pow_pos i

lemma mul_one_eq {k l : Nat} (h : k + 1074 = l) : 2 ^ k * one = 2 ^ l := by
  -- The exponent is a variable, so that the power is not computed.
  obtain ⟨i, hi, unit⟩ : ∃ i, i = 1074 ∧ one = Nat.pow 2 i := ⟨1074, rfl, Decimal.one_eq⟩
  rw [unit, ← h, ← hi]
  exact (Nat.pow_add 2 k i).symm

/-- Rounding a double is rounding its value. -/
lemma awayFromZero_eq (x : Binary64) : x.awayFromZero = roundedAway x.value := by
  have nonneg : (0 : ℚ) ≤ x.units / one := by positivity
  have whole : x.awayFromZero =
      if x.negative then -⌈(x.units / one : ℚ)⌉ else ⌈(x.units / one : ℚ)⌉ := by
    rw [ceil_div x.units one_pos]
    rfl
  rw [whole, value]
  generalize (x.units / one : ℚ) = u at *
  cases x.negative with
  | true =>
    have below : ¬0 < -u := by linarith
    simp [roundedAway, below, Int.floor_neg]
  | false =>
    rcases nonneg.lt_or_eq with positive | rfl
    · simp [roundedAway, positive]
    · simp [roundedAway]

/-! To a double. -/

/-- A whole number of units is rounded to no less than the power of two below it. -/
lemma exists_ofQuotient? (negative : Bool) (low : 2 ^ (e + 52) ≤ a) (high : a < 2 ^ (e + 53))
    (he : e ≤ 2044) :
    ∃ x, ofQuotient? negative a 1 = some x ∧ x.negative = negative ∧ 2 ^ (e + 52) ≤ x.units := by
  have scale : HasScale a 1 e := ⟨by simpa using high, Or.inr (by simpa using low)⟩
  obtain ⟨x, nearest, sign, units⟩ := scale.exists_ofQuotient? negative Nat.one_pos he
  have power : 2 ^ (e + 52) = 2 ^ 52 * 2 ^ e := by rw [Nat.add_comm, Nat.pow_add]
  rw [Nat.one_mul] at units
  rw [power] at low ⊢
  have least : 2 ^ 52 ≤ a / 2 ^ e := (Nat.le_div_iff_mul_le (Nat.two_pow_pos e)).mpr low
  exact ⟨x, nearest, sign, (Nat.mul_le_mul_right _ least).trans units⟩

/-- The double nearest to a number of 64 bits is no less than the power of two below it. -/
lemma exists_ofDecimal? (negative : Bool) (low : 2 ^ 63 ≤ n) (high : n < 2 ^ 64) :
    ∃ x, ofDecimal? negative n 0 = some x ∧ x.negative = negative ∧ 2 ^ 63 * one ≤ x.units := by
  have length : decimalLength n ≤ 20 := (decimalLength_le_iff (by decide)).mpr (by omega)
  have quotient : ofDecimal? negative n 0 = ofQuotient? negative (n * one) 1 := by
    rw [ofDecimal?_eq (i := 0) (j := 0) negative (by omega) (by omega) (by omega) (by decide),
      Nat.pow_zero, Nat.mul_one]
  have least : 2 ^ 63 * one = 2 ^ (1085 + 52) := mul_one_eq rfl
  have most : 2 ^ 64 * one = 2 ^ (1085 + 53) := mul_one_eq rfl
  have bounds : 2 ^ 63 * one ≤ n * one ∧ n * one < 2 ^ 64 * one :=
    ⟨Nat.mul_le_mul_right one low, Nat.mul_lt_mul_of_pos_right high one_pos⟩
  rw [least, most] at bounds
  rw [quotient, least]
  exact exists_ofQuotient? negative bounds.1 bounds.2 (by decide)

/-- A number above the word is read as a double above the word. -/
lemma awayFromZero_ofDecimal? (low : 2 ^ 63 ≤ n) (high : n < 2 ^ 64) :
    ∃ x, ofDecimal? false n 0 = some x ∧ 2 ^ 63 ≤ x.awayFromZero := by
  obtain ⟨x, nearest, sign, units⟩ := exists_ofDecimal? false low high
  have whole : 2 ^ 63 ≤ (x.units + (one - 1)) / one :=
    (Nat.le_div_iff_mul_le one_pos).mpr (by omega)
  refine ⟨x, nearest, ?_⟩
  simp only [awayFromZero, sign, Bool.false_eq_true, if_false]
  exact_mod_cast whole

end Binary64
end Workspace.Json
