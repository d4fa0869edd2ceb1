import Mathlib.Tactic.Ring
import Workspace.Json.Shortest

/-! Rounding. A quotient has one scale, at which it has 53 bits or the smallest unit, so the
double that is nearest to it depends on its value alone and not on how it is written; and a
double is nearest to itself. Zeros at the end of a decimal therefore make no difference. -/
namespace Workspace.Json.Binary64

/-- The scale at which `a / d` has 53 bits, or the smallest one where it has fewer. -/
structure HasScale (a d p : Nat) : Prop where
  lt : a < d * 2 ^ (p + 53)
  full : p = 0 ∨ d * 2 ^ (p + 52) ≤ a

variable {a d p q : Nat}

lemma HasScale.le (hp : HasScale a d p) (hq : HasScale a d q) : p ≤ q := by
  by_contra h
  have bound : d * 2 ^ (p + 52) ≤ a := hp.full.resolve_left (by omega)
  have fewer : d * 2 ^ (q + 53) ≤ d * 2 ^ (p + 52) :=
    Nat.mul_le_mul_left d (Nat.pow_le_pow_right (by decide) (by omega))
  have := hq.lt
  omega

lemma HasScale.unique (hp : HasScale a d p) (hq : HasScale a d q) : p = q :=
  Nat.le_antisymm (hp.le hq) (hq.le hp)

lemma HasScale.mul_right (h : HasScale a d p) {c : Nat} (hc : 0 < c) :
    HasScale (a * c) (d * c) p where
  lt := by
    rw [Nat.mul_right_comm]
    exact Nat.mul_lt_mul_of_pos_right h.lt hc
  full := by
    rw [Nat.mul_right_comm]
    exact h.full.imp_right fun bound => Nat.mul_le_mul_right c bound

lemma hasScale_scaleFor (a : Nat) (hd : 0 < d) : HasScale a d (scaleFor a d) := by
  have upper (p : Nat) (h : a.log2 ≤ d.log2 + 52 + p) : a < d * 2 ^ (p + 53) := calc
    a < 2 ^ (a.log2 + 1) := Nat.lt_log2_self
    _ ≤ 2 ^ (d.log2 + (p + 53)) := Nat.pow_le_pow_right (by decide) (by omega)
    _ = 2 ^ d.log2 * 2 ^ (p + 53) := Nat.pow_add ..
    _ ≤ d * 2 ^ (p + 53) := Nat.mul_le_mul_right _ (Nat.log2_self_le (by omega))
  have lower (p : Nat) (h : d.log2 + 53 + p ≤ a.log2) : d * 2 ^ (p + 52) ≤ a := calc
    d * 2 ^ (p + 52) ≤ 2 ^ (d.log2 + 1) * 2 ^ (p + 52) :=
      Nat.mul_le_mul_right _ Nat.lt_log2_self.le
    _ = 2 ^ (d.log2 + 1 + (p + 52)) := (Nat.pow_add ..).symm
    _ ≤ 2 ^ a.log2 := Nat.pow_le_pow_right (by decide) (by omega)
    _ ≤ a := Nat.log2_self_le (by rintro rfl; simp at h)
  unfold scaleFor
  dsimp only
  split
  · rename_i fewer
    refine ⟨?_, ?_⟩
    · rw [show a.log2 - (d.log2 + 52) - 1 + 53 = a.log2 - (d.log2 + 52) + 52 by omega]
      exact fewer.2
    · by_cases h : a.log2 = d.log2 + 53
      · exact Or.inl (by omega)
      · exact Or.inr (lower _ (by omega))
  · rename_i enough
    refine ⟨upper _ (by omega), ?_⟩
    rcases Nat.eq_zero_or_pos (a.log2 - (d.log2 + 52)) with none | some
    · exact Or.inl none
    · exact Or.inr (Nat.not_lt.mp fun fewer => enough ⟨some, fewer⟩)

/-- A quotient below a power of two needs less than that for its scale and 53 bits. -/
lemma HasScale.eq_zero_or_lt (h : HasScale a d p) {k : Nat} (small : a < d * Nat.pow 2 k) :
    p = 0 ∨ p + 52 < k := by
  refine h.full.imp_right fun full => ?_
  have below : 2 ^ (p + 52) < 2 ^ k := Nat.lt_of_mul_lt_mul_left (full.trans_lt small)
  exact (Nat.pow_lt_pow_iff_right (by decide)).mp below

lemma scaleFor_eq (hd : 0 < d) (h : HasScale a d p) : scaleFor a d = p :=
  (hasScale_scaleFor a hd).unique h

lemma scaleFor_mul (a : Nat) (hd : 0 < d) {c : Nat} (hc : 0 < c) :
    scaleFor (a * c) (d * c) = scaleFor a d :=
  scaleFor_eq (Nat.mul_pos hd hc) ((hasScale_scaleFor a hd).mul_right hc)

lemma roundQuotient_mul (a d : Nat) {c : Nat} (hc : 0 < c) :
    roundQuotient (a * c) (d * c) = roundQuotient a d := by
  have double : 2 * (a % d * c) = 2 * (a % d) * c := (Nat.mul_assoc ..).symm
  simp only [roundQuotient, Nat.mul_div_mul_right _ _ hc, Nat.mul_mod_mul_right, double,
    Nat.mul_lt_mul_right hc]

lemma roundQuotient_exact (m : Nat) (hd : 0 < d) : roundQuotient (m * d) d = m := by
  simp [roundQuotient, hd]

/-- Rounding depends on the value of the quotient alone. -/
lemma ofQuotient?_mul (negative : Bool) (a : Nat) (hd : 0 < d) {c : Nat} (hc : 0 < c) :
    ofQuotient? negative (a * c) (d * c) = ofQuotient? negative a d := by
  have round (p : Nat) : roundQuotient (a * c) (d * c * Nat.pow 2 p) =
      roundQuotient a (d * Nat.pow 2 p) := by
    rw [Nat.mul_right_comm, roundQuotient_mul _ _ hc]
  simp only [ofQuotient?, scaleFor_mul a hd hc, round]

lemma hasScale_units (x : Binary64) : HasScale x.units 1 x.scale := by
  have canonical := x.canonical
  have units : x.units = x.significand * 2 ^ x.scale := rfl
  rw [units]
  constructor
  · rw [Nat.one_mul, Nat.add_comm, Nat.pow_add]
    exact Nat.mul_lt_mul_of_pos_right canonical.lt (Nat.two_pow_pos _)
  · rw [Nat.one_mul, Nat.add_comm x.scale 52, Nat.pow_add]
    exact canonical.full.symm.imp_right fun full => Nat.mul_le_mul_right _ full

/-- A double is the nearest to itself. -/
lemma ofQuotient?_units (x : Binary64) : ofQuotient? x.negative x.units 1 = some x := by
  have scale : scaleFor x.units 1 = x.scale := scaleFor_eq Nat.one_pos (hasScale_units x)
  have significand : roundQuotient x.units (1 * Nat.pow 2 x.scale) = x.significand := by
    rw [Nat.one_mul]
    exact roundQuotient_exact _ (Nat.two_pow_pos _)
  have small := x.canonical.lt
  simp only [ofQuotient?, scale, significand, if_neg small.ne, dif_pos x.canonical]

lemma roundQuotient_bounds (a d : Nat) :
    a / d ≤ roundQuotient a d ∧ roundQuotient a d ≤ a / d + 1 := by
  simp only [roundQuotient]
  split_ifs <;> omega

/-- A quotient whose scale leaves room for a carry is rounded to a double, and to no less than what
is cut off to 53 bits. -/
lemma HasScale.exists_ofQuotient? (h : HasScale a d p) (negative : Bool) (hd : 0 < d)
    (hp : p ≤ 2044) : ∃ x, ofQuotient? negative a d = some x ∧ x.negative = negative ∧
      a / (d * 2 ^ p) * 2 ^ p ≤ x.units := by
  have unit : 0 < d * 2 ^ p := Nat.mul_pos hd (Nat.two_pow_pos p)
  have power (k : Nat) : d * 2 ^ (p + k) = 2 ^ k * (d * 2 ^ p) := by ring
  have most : a / (d * 2 ^ p) < 2 ^ 53 :=
    (Nat.div_lt_iff_lt_mul unit).mpr (power 53 ▸ h.lt)
  have least : p = 0 ∨ 2 ^ 52 ≤ a / (d * 2 ^ p) :=
    h.full.imp_right fun full => (Nat.le_div_iff_mul_le unit).mpr (power 52 ▸ full)
  obtain ⟨m, hm⟩ : ∃ m, roundQuotient a (d * Nat.pow 2 p) = m := ⟨_, rfl⟩
  have bounds : a / (d * 2 ^ p) ≤ m ∧ m ≤ a / (d * 2 ^ p) + 1 := by
    rw [← hm]
    exact roundQuotient_bounds a (d * 2 ^ p)
  simp only [ofQuotient?, scaleFor_eq hd h, hm]
  by_cases carried : m = 0x20000000000000
  · have canonical : Canonical 0x10000000000000 (p + 1) := ⟨by decide, Or.inl (by decide), by omega⟩
    simp only [carried, if_true, dif_pos canonical]
    refine ⟨_, rfl, rfl, ?_⟩
    calc a / (d * 2 ^ p) * 2 ^ p ≤ 2 ^ 53 * 2 ^ p := Nat.mul_le_mul_right _ most.le
      _ = 2 ^ 52 * 2 ^ (p + 1) := by ring
  · have canonical : Canonical m p := ⟨by omega, least.symm.imp_left (by omega), by omega⟩
    simp only [carried, if_false, dif_pos canonical]
    exact ⟨_, rfl, rfl, Nat.mul_le_mul_right _ bounds.1⟩

/-! Decimals. -/

lemma units_eq_zero_iff {x : Binary64} : x.units = 0 ↔ x = zero x.negative := by
  constructor
  · intro h
    have significand : x.significand = 0 := by
      simpa [units] using h
    obtain ⟨negative, m, p, canonical⟩ := x
    obtain rfl : m = 0 := significand
    obtain rfl : p = 0 := canonical.full.resolve_left (by decide)
    rfl
  · intro h
    rw [h]
    rfl

lemma ofDecimal?_zero (negative : Bool) (e : Int) :
    ofDecimal? negative 0 e = some (zero negative) := by
  simp [ofDecimal?]

/-- What has a double nearest to it is not too long. -/
lemma ofDecimal?_bound {negative : Bool} {n : Nat} {e : Int} {x : Binary64} (hn : n ≠ 0)
    (h : ofDecimal? negative n e = some x) : decimalLength n + e ≤ 400 := by
  by_contra long
  rw [ofDecimal?, if_neg (by omega), if_pos (by omega)] at h
  cases h

/-- A decimal that is not told by its length alone is a quotient, written in any way. -/
lemma ofDecimal?_eq {n i j : Nat} {e : Int} (negative : Bool) (hn : n ≠ 0)
    (low : -400 ≤ decimalLength n + e) (high : decimalLength n + e ≤ 400) (he : e = i - j) :
    ofDecimal? negative n e = ofQuotient? negative (n * 10 ^ i * one) (10 ^ j) := by
  have tens (k : Nat) : 0 < 10 ^ k := Nat.pow_pos (by decide)
  rw [ofDecimal?, if_neg (by omega), if_neg (by omega)]
  generalize one = unit
  split
  · have power : 10 ^ i = 10 ^ e.toNat * 10 ^ j := by
      rw [← Nat.pow_add]
      congr 1
      omega
    calc ofQuotient? negative (n * 10 ^ e.toNat * unit) 1
        = ofQuotient? negative (n * 10 ^ e.toNat * unit * 10 ^ j) (1 * 10 ^ j) :=
          (ofQuotient?_mul negative _ Nat.one_pos (tens j)).symm
      _ = ofQuotient? negative (n * 10 ^ i * unit) (10 ^ j) := by rw [power]; congr 1 <;> ring
  · have power : 10 ^ j = 10 ^ (-e).toNat * 10 ^ i := by
      rw [← Nat.pow_add]
      congr 1
      omega
    calc ofQuotient? negative (n * unit) (10 ^ (-e).toNat)
        = ofQuotient? negative (n * unit * 10 ^ i) (10 ^ (-e).toNat * 10 ^ i) :=
          (ofQuotient?_mul negative _ (tens _) (tens i)).symm
      _ = ofQuotient? negative (n * 10 ^ i * unit) (10 ^ j) := by rw [power, Nat.mul_right_comm]

lemma decimalLength_le_iff {n k : Nat} (hk : 0 < k) : decimalLength n ≤ k ↔ n < 10 ^ k :=
  Nat.length_toDigits_le_iff (by decide) hk

lemma decimalLength_pos (n : Nat) : 0 < decimalLength n :=
  List.length_pos_iff.mpr Nat.toDigits_ne_nil

lemma decimalLength_mul_pow {n : Nat} (hn : n ≠ 0) (k : Nat) :
    decimalLength (n * 10 ^ k) = decimalLength n + k := by
  have same (l : Nat) (hl : 0 < l) :
      decimalLength (n * 10 ^ k) ≤ l + k ↔ decimalLength n ≤ l := by
    rw [decimalLength_le_iff (by omega), decimalLength_le_iff hl, Nat.pow_add]
    exact Nat.mul_lt_mul_right (Nat.pow_pos (by decide))
  have longer : k < decimalLength (n * 10 ^ k) := by
    by_contra short
    have := (decimalLength_le_iff (decimalLength_pos _)).mp
      (Nat.le_refl (decimalLength (n * 10 ^ k)))
    have : n * 10 ^ k < 10 ^ k :=
      this.trans_le (Nat.pow_le_pow_right (by decide) (Nat.not_lt.mp short))
    have : 10 ^ k ≤ n * 10 ^ k := Nat.le_mul_of_pos_left _ (Nat.pos_of_ne_zero hn)
    omega
  have upper := (same _ (decimalLength_pos n)).mpr (Nat.le_refl _)
  have lower := (same (decimalLength (n * 10 ^ k) - k) (by omega)).mp (by omega)
  omega

/-- Zeros at the end of the digits count as much as the exponent. -/
lemma ofDecimal?_mul_pow (negative : Bool) (n k : Nat) (e : Int) :
    ofDecimal? negative (n * 10 ^ k) e = ofDecimal? negative n (e + k) := by
  by_cases hn : n = 0
  · rw [hn, Nat.zero_mul, ofDecimal?_zero, ofDecimal?_zero]
  have hn' : n * 10 ^ k ≠ 0 := Nat.mul_ne_zero hn (Nat.pow_pos (by decide)).ne'
  have length := decimalLength_mul_pow hn k
  have top : (decimalLength (n * 10 ^ k) : Int) + e = decimalLength n + (e + k) := by omega
  by_cases low : decimalLength n + (e + k) < -400
  · rw [ofDecimal?, ofDecimal?, top, if_pos (Or.inr low), if_pos (Or.inr low)]
  by_cases high : 400 < decimalLength n + (e + k)
  · simp only [ofDecimal?, top, hn, hn', low, high, or_self, if_false, if_true]
  -- Both are quotients of the same value.
  rw [ofDecimal?_eq (i := e.toNat) (j := (-e).toNat) negative hn' (by omega) (by omega) (by omega),
    ofDecimal?_eq (i := e.toNat + k) (j := (-e).toNat) negative hn (by omega) (by omega) (by omega)]
  congr 2
  ring

end Workspace.Json.Binary64

namespace Workspace.Json.Decimal
open Binary64

lemma pow_le_pow_of_pow_le {b c d k l : Nat} (hb : 0 < b) (h : Nat.pow b c ≤ d) (hk : k ≤ c * l) :
    Nat.pow b k ≤ Nat.pow d l := calc
  b ^ k ≤ b ^ (c * l) := Nat.pow_le_pow_right hb hk
  _ = (b ^ c) ^ l := Nat.pow_mul ..
  _ ≤ d ^ l := Nat.pow_le_pow_left h l

/-- A whole number below the range of doubles is not long. -/
lemma length_whole {m s : Nat} (small : m < 2 ^ 53) (hs : s ≤ 971) :
    decimalLength (m * 2 ^ s) ≤ 400 := by
  refine (decimalLength_le_iff (by decide)).mpr ?_
  calc m * 2 ^ s < 2 ^ 53 * 2 ^ s := Nat.mul_lt_mul_of_pos_right small (Nat.two_pow_pos s)
    _ = 2 ^ (53 + s) := (Nat.pow_add ..).symm
    _ ≤ 10 ^ 400 := pow_le_pow_of_pow_le (c := 3) (by decide) (by decide) (by omega)

/-- The digits of a fraction are about as many as there are behind the point. -/
lemma length_fraction {m k : Nat} (hm : m ≠ 0) (small : m < 2 ^ 53) (hk : k ≤ 1074) :
    k ≤ decimalLength (m * 5 ^ k) + 400 ∧ decimalLength (m * 5 ^ k) ≤ 400 + k := by
  constructor
  · by_contra short
    obtain ⟨l, rfl⟩ := Nat.exists_eq_add_of_le (show 400 ≤ k by omega)
    have length : decimalLength (m * 5 ^ (400 + l)) ≤ l := by omega
    have bound := (decimalLength_le_iff (by omega)).mp length
    have long : 10 ^ l ≤ m * 5 ^ (400 + l) := calc
      10 ^ l = 2 ^ l * 5 ^ l := Nat.mul_pow 2 5 l
      _ ≤ 5 ^ 400 * 5 ^ l := Nat.mul_le_mul_right _
        (pow_le_pow_of_pow_le (c := 2) (by decide) (by decide) (by omega))
      _ = 5 ^ (400 + l) := by rw [Nat.pow_add]
      _ ≤ m * 5 ^ (400 + l) := Nat.le_mul_of_pos_left _ (Nat.pos_of_ne_zero hm)
    omega
  · refine (decimalLength_le_iff (by omega)).mpr ?_
    calc m * 5 ^ k < 2 ^ 53 * 5 ^ k :=
          Nat.mul_lt_mul_of_pos_right small (Nat.pow_pos (by decide))
      _ ≤ 10 ^ 400 * 10 ^ k := Nat.mul_le_mul
        (pow_le_pow_of_pow_le (c := 3) (by decide) (by decide) (by decide))
        (Nat.pow_le_pow_left (by decide) k)
      _ = 10 ^ (400 + k) := by rw [Nat.pow_add]

lemma one_eq : one = Nat.pow 2 1074 := by
  unfold one
  exact Eq.refl _

/-- Three digits make no more than ten bits. -/
lemma mul_pow_lt {n i j l : Nat} (bound : decimalLength n + i ≤ j + 3 * l) :
    n * Nat.pow 10 i < Nat.pow 10 j * Nat.pow 2 (10 * l) := by
  have digits : n < 10 ^ decimalLength n :=
    (decimalLength_le_iff (decimalLength_pos n)).mp (Nat.le_refl _)
  have power : 10 ^ (3 * l) ≤ (2 ^ 10) ^ l :=
    pow_le_pow_of_pow_le (c := 3) (by decide) (by decide) (Nat.le_refl _)
  calc n * 10 ^ i < 10 ^ decimalLength n * 10 ^ i :=
        Nat.mul_lt_mul_of_pos_right digits (Nat.pow_pos (by decide))
    _ = 10 ^ (decimalLength n + i) := (Nat.pow_add ..).symm
    _ ≤ 10 ^ (j + 3 * l) := Nat.pow_le_pow_right (by decide) bound
    _ = 10 ^ j * 10 ^ (3 * l) := Nat.pow_add ..
    _ ≤ 10 ^ j * (2 ^ 10) ^ l := Nat.mul_le_mul_left _ power
    _ = 10 ^ j * 2 ^ (10 * l) := by rw [Nat.pow_mul]

/-- A decimal that is far from the end of the range has a double nearest to it. -/
lemma exists_nearest (negative : Bool) {n : Nat} {e : Int} (bound : decimalLength n + e ≤ 300) :
    ∃ x, ofDecimal? negative n e = some x := by
  by_cases hn : n = 0
  · exact ⟨_, hn ▸ ofDecimal?_zero negative e⟩
  by_cases low : decimalLength n + e < -400
  · exact ⟨_, if_pos (Or.inr low)⟩
  obtain ⟨i, j, he⟩ : ∃ i j : Nat, e = i - j := ⟨e.toNat, (-e).toNat, by omega⟩
  rw [ofDecimal?_eq (i := i) (j := j) negative hn (by omega) (by omega) he]
  -- The exponents are variables, so that the powers are not computed.
  obtain ⟨k, hk, unit⟩ : ∃ k, k = 1074 ∧ one = Nat.pow 2 k := ⟨1074, rfl, one_eq⟩
  obtain ⟨l, hl⟩ : ∃ l, l = 100 := ⟨100, rfl⟩
  have tens : 0 < 10 ^ j := Nat.pow_pos (by decide)
  have small : n * 10 ^ i * one < 10 ^ j * 2 ^ (10 * l + k) := by
    rw [unit, Nat.pow_add, ← Nat.mul_assoc]
    exact Nat.mul_lt_mul_of_pos_right (mul_pow_lt (by omega)) (Nat.two_pow_pos k)
  have scale := hasScale_scaleFor (n * 10 ^ i * one) tens
  have room : scaleFor (n * 10 ^ i * one) (10 ^ j) ≤ 2044 := by
    have := scale.eq_zero_or_lt small
    omega
  obtain ⟨x, nearest, _⟩ := scale.exists_ofQuotient? negative tens room
  exact ⟨x, nearest⟩

section Exact
variable {negative : Bool} {x : Binary64} {m : Nat}

variable {k p s : Nat}

lemma nearest?_whole (unit : one = Nat.pow 2 k) (hm : m ≠ 0) (small : m < 2 ^ 53) (hs : s ≤ 971)
    (reads : ofQuotient? negative (m * Nat.pow 2 (k + s)) 1 = some x) :
    ofDecimal? negative (m * 2 ^ s) 0 = some x := by
  have length := length_whole small hs
  have digits : m * 2 ^ s ≠ 0 := Nat.mul_ne_zero hm (Nat.two_pow_pos s).ne'
  have value : m * 2 ^ s * 10 ^ 0 * one = m * Nat.pow 2 (k + s) := by
    rw [Nat.pow_zero, Nat.mul_one, Nat.mul_assoc, unit, Nat.add_comm k]
    exact congrArg (m * ·) (Nat.pow_add 2 s k).symm
  rw [ofDecimal?_eq (i := 0) (j := 0) _ digits (by omega) (by omega) (by omega), value,
    Nat.pow_zero, reads]

lemma nearest?_fraction (hm : m ≠ 0) (small : m < 2 ^ 53) (hk : p + k = 1074)
    (reads : ofQuotient? negative (m * Nat.pow 2 p) 1 = some x) :
    ofDecimal? negative (m * 5 ^ k) (-k) = some x := by
  have length := length_fraction (k := k) hm small (by omega)
  have digits : m * 5 ^ k ≠ 0 := Nat.mul_ne_zero hm (Nat.pow_pos (by decide)).ne'
  have value : m * 5 ^ k * 10 ^ 0 * one = m * Nat.pow 2 p * 10 ^ k := by
    have tens : 10 ^ k = 2 ^ k * 5 ^ k := Nat.mul_pow 2 5 k
    have halves : one = 2 ^ p * 2 ^ k := by
      rw [one_eq, ← hk]
      exact Nat.pow_add 2 p k
    rw [halves, tens, Nat.pow_eq]
    ring
  have scaled := ofQuotient?_mul negative (m * Nat.pow 2 p) Nat.one_pos
    (Nat.pow_pos (n := k) (show 0 < 10 by decide))
  rw [Nat.one_mul, reads] at scaled
  rw [ofDecimal?_eq (i := 0) (j := k) _ digits (by omega) (by omega) (by omega), value, scaled]

end Exact

/-- The exact expansion reads back. -/
lemma nearest?_exact {x : Binary64} (h : x.units ≠ 0) :
    (exact x).nearest? x.negative = some x := by
  have significand : x.significand ≠ 0 := by
    rintro zero
    simp [units, zero] at h
  have small := x.canonical.lt
  have scale := x.canonical.le
  have reads := ofQuotient?_units x
  unfold units at reads
  unfold exact nearest?
  split
  · obtain ⟨s, hs⟩ := Nat.exists_eq_add_of_le ‹1074 ≤ x.scale›
    rw [hs] at reads
    simp only [hs, Nat.add_sub_cancel_left]
    exact nearest?_whole one_eq significand small (by omega) reads
  · obtain ⟨k, hk⟩ := Nat.exists_eq_add_of_le (Nat.not_le.mp ‹¬1074 ≤ x.scale›).le
    have power : 1074 - x.scale = k := by omega
    have exponent : (x.scale : Int) - 1074 = -k := by omega
    simp only [power, exponent]
    exact nearest?_fraction significand small hk.symm reads

lemma nearest?_shortest {x : Binary64} (h : x.units ≠ 0) :
    (shortest x).nearest? x.negative = some x := by
  have first (ds : List Decimal) :
      ((ds.find? fun d => d.nearest? x.negative == some x).getD (exact x)).nearest? x.negative =
        some x := by
    cases found : ds.find? fun d => d.nearest? x.negative == some x with
    | none => exact nearest?_exact h
    | some d => simpa using List.find?_some found
  unfold shortest
  exact first _

end Workspace.Json.Decimal
