import Workspace.Machine.MemoryLimit
import Workspace.Proofs.ExactValue
import Workspace.Proofs.Rebuild

/-! Limits that are stored as numbers. The limit that is read is the exact value, rounded away from
zero and clamped to the word, whichever kind of number holds it. A whole number above the word
goes through the double nearest to it, which makes no difference: it stays above the word. So
numbers of any kinds are read in the order of their values. -/
namespace Workspace.Machine
open Json
variable {m : Machine} {n : Number} {q r : ℚ}

/-- The limit that a number of this value stands for. -/
def limitOf (q : ℚ) : ℤ :=
  if q = 0 then -1 else max (-2 ^ 63) (min (2 ^ 63 - 1) (roundedAway q))

lemma limitOf_pos (h : 0 < q) : 0 < limitOf q := by
  have away := roundedAway_pos h
  rw [limitOf, if_neg h.ne']
  omega

lemma limitOf_neg (h : q ≤ 0) : limitOf q < 0 := by
  rcases h.lt_or_eq with below | rfl
  · have away := roundedAway_neg below
    rw [limitOf, if_neg below.ne]
    omega
  · decide

/-- Zero is read as the number next below it, which no number below zero exceeds. -/
lemma limitOf_mono (h : q ≤ r) : limitOf q ≤ limitOf r := by
  have away := roundedAway_mono h
  rcases lt_trichotomy r 0 with hr | rfl | hr
  · have hq : q < 0 := h.trans_lt hr
    rw [limitOf, limitOf, if_neg hq.ne, if_neg hr.ne]
    omega
  · have low := limitOf_neg h
    have zero : limitOf 0 = -1 := by decide
    omega
  · have high := limitOf_pos hr
    rcases le_or_gt q 0 with hq | hq
    · have low := limitOf_neg hq
      omega
    · rw [limitOf, limitOf, if_neg hq.ne', if_neg hr.ne']
      omega

/-! Clamping to the word. -/

lemma toInt_clamp (i : ℤ) : (clamp i).toInt = max (-2 ^ 63) (min (2 ^ 63 - 1) i) := by
  by_cases low : i < -0x8000000000000000
  · rw [clamp, if_pos low, Int64.toInt_minValue]
    omega
  by_cases high : 0x8000000000000000 ≤ i
  · rw [clamp, if_neg low, if_pos high, Int64.toInt_maxValue]
    omega
  · rw [clamp, if_neg low, if_neg high, Int64.toInt_ofInt_of_le (by omega) (by omega)]
    omega

lemma ofInt_eq_clamp {i : ℤ} (low : -2 ^ 63 ≤ i) (high : i < 2 ^ 63) :
    Int64.ofInt i = clamp i := by
  rw [← Int64.toInt_inj, toInt_clamp, Int64.toInt_ofInt_of_le low high]
  omega

/-- Above the word it does not matter which number is clamped. -/
lemma clamp_congr {i j : ℤ} (hi : 2 ^ 63 ≤ i) (hj : 2 ^ 63 ≤ j) : clamp i = clamp j := by
  rw [← Int64.toInt_inj, toInt_clamp, toInt_clamp]
  omega

lemma clamp_eq_zero {i : ℤ} : clamp i = 0 ↔ i = 0 := by
  rw [← Int64.toInt_inj, toInt_clamp, Int64.toInt_zero]
  omega

/-! Reading a number. -/

/-- What is read hangs on the value alone. -/
lemma numberLimit?_eq (n : Number) : numberLimit? n = some (clamp (roundedAway n.value)) := by
  cases n with
  | natural n h =>
    have value : roundedAway (Number.natural n h).value = n := roundedAway_intCast n
    by_cases word : n < 0x8000000000000000
    · have stored : (Number.natural n h).int64? = some (Int64.ofInt n) := if_pos word
      rw [value, numberLimit?, stored, ofInt_eq_clamp (by omega) (by omega)]
    · have stored : (Number.natural n h).int64? = none := if_neg word
      obtain ⟨x, nearest, above⟩ := Binary64.awayFromZero_ofDecimal? (Nat.not_lt.mp word) h
      have same : clamp x.awayFromZero = clamp n := clamp_congr above (by omega)
      rw [value, numberLimit?, stored, Number.double?, nearest, Option.map_some, same]
  | negative n h =>
    have value : roundedAway (Number.negative n h).value = -n := by
      have cast : (Number.negative n h).value = ((-n : ℤ) : ℚ) := by simp [Number.value]
      rw [cast, roundedAway_intCast]
    rw [value, ← ofInt_eq_clamp (by omega) (by omega)]
    rfl
  | double x =>
    rw [Number.value, ← Binary64.awayFromZero_eq]
    rfl

lemma memoryLimit_eq (h : m.limit? = some (.number n)) :
    m.memoryLimit = if n.value = 0 then -1 else clamp (roundedAway n.value) := by
  have found : m.attributes.get? limitKey = some (.number n) := h
  have stored : storedLimit? (.number n) = some (clamp (roundedAway n.value)) := numberLimit?_eq n
  simp only [memoryLimit, found, Option.bind_some, stored, clamp_eq_zero, roundedAway_eq_zero]
  rfl

lemma toInt_memoryLimit (h : m.limit? = some (.number n)) :
    m.memoryLimit.toInt = limitOf n.value := by
  rw [memoryLimit_eq h, limitOf]
  split
  · rfl
  · exact toInt_clamp _

lemma memoryLimit_ofInt64 {n : Int64} (h : m.limit? = some (.number (.ofInt64 n))) :
    m.memoryLimit = if n = 0 then -1 else n := by
  have clamped : clamp n.toInt = n := by
    rw [← ofInt_eq_clamp (Int64.le_toInt n) (Int64.toInt_lt n), Int64.ofInt_toInt]
  have zero : (n.toInt : ℚ) = 0 ↔ n = 0 := by
    rw [Int.cast_eq_zero, ← Int64.toInt_zero, Int64.toInt_inj]
  simp only [memoryLimit_eq h, Number.value_ofInt64, roundedAway_intCast, clamped, zero]

lemma memoryLimit_setMemoryLimit (n : Int64) (m : Machine) :
    (m.setMemoryLimit n).memoryLimit = if n = 0 then -1 else n := by
  refine memoryLimit_ofInt64 ?_
  rw [limit?, setMemoryLimit, Dict.get?_insert, if_pos rfl]
  rfl

/-- A number in the attribute is read as its exact value, rounded away from zero and clamped to
the word, a zero as no limit. So no limit is zero, each has the sign of its number, and numbers of
any kinds are read in their order. A word that is set is read as it is. -/
theorem memoryLimit_number :
    (∀ (m : Machine) (n : Number), m.limit? = some (.number n) →
      m.memoryLimit.toInt =
        (if n.value = 0 then -1 else max (-2 ^ 63) (min (2 ^ 63 - 1) (roundedAway n.value))) ∧
      m.memoryLimit ≠ 0 ∧ (0 < n.value → 0 < m.memoryLimit) ∧
      (n.value < 0 → m.memoryLimit < 0)) ∧
    (∀ (m : Machine) (n : Nat) (h : n < 0x10000000000000000),
      m.limit? = some (.number (.natural n h)) → 2 ^ 63 ≤ n → m.memoryLimit = Int64.maxValue) ∧
    (∀ (m m' : Machine) (n n' : Number), m.limit? = some (.number n) →
      m'.limit? = some (.number n') → n.value ≤ n'.value → m.memoryLimit ≤ m'.memoryLimit) ∧
    ∀ (m : Machine) (n : Int64), (m.setMemoryLimit n).memoryLimit = if n = 0 then -1 else n := by
  refine ⟨?value, ?beyond, ?order, fun m n => memoryLimit_setMemoryLimit n m⟩
  case value =>
    intro m n h
    have read := toInt_memoryLimit h
    refine ⟨read, ?_, fun above => ?_, fun below => ?_⟩
    · rw [Ne, ← Int64.toInt_inj, read, Int64.toInt_zero]
      rcases le_or_gt n.value 0 with low | above
      · exact (limitOf_neg low).ne
      · exact (limitOf_pos above).ne'
    · rw [Int64.lt_iff_toInt_lt, read]
      exact limitOf_pos above
    · rw [Int64.lt_iff_toInt_lt, read]
      exact limitOf_neg below.le
  case beyond =>
    intro m n h stored large
    have value : (Number.natural n h).value = (n : ℤ) := rfl
    have positive : (0 : ℚ) < (n : ℤ) := by
      have : 0 < n := by omega
      exact_mod_cast this
    rw [← Int64.toInt_inj, toInt_memoryLimit stored, value, limitOf, if_neg positive.ne',
      roundedAway_intCast, Int64.toInt_maxValue]
    omega
  case order =>
    intro m m' n n' h h' le
    rw [Int64.le_iff_toInt_le, toInt_memoryLimit h, toInt_memoryLimit h']
    exact limitOf_mono le

/-- A half below zero, a zero with a sign, the greatest natural number, and the bound of the word
as a natural number and as a double. -/
theorem memoryLimit_number_bounds :
    let limited (n : Number) : Machine := { Machine.new "web" ⟨.dockerImage, .absent, .empty⟩ with
      attributes := Dict.empty.insert limitKey (.number n) }
    let half : Number := .double ⟨true, 0x10000000000000, 1021, by decide⟩
    let bound : Number := .natural 0x8000000000000000 (by decide)
    let double : Number := .double ⟨false, 0x10000000000000, 1085, by decide⟩
    (limited half).memoryLimit.toInt = -1 ∧ (limited half).memoryLimit < 0 ∧
      (limited (.double (.zero true))).memoryLimit ≠ 0 ∧
      (limited (.natural 0xffffffffffffffff (by decide))).memoryLimit = Int64.maxValue ∧
      (limited bound).memoryLimit ≤ (limited double).memoryLimit ∧
      (limited double).memoryLimit ≤ (limited bound).memoryLimit := by
  intro limited half bound double
  obtain ⟨value, beyond, order, _⟩ := memoryLimit_number
  have below : half.value < 0 := by decide +kernel
  have same : bound.value = double.value := by decide +kernel
  obtain ⟨read, _, _, sign⟩ := value (limited half) half rfl
  obtain ⟨_, zero, _⟩ := value (limited (.double (.zero true))) (.double (.zero true)) rfl
  refine ⟨read.trans (by decide +kernel), sign below, zero, beyond _ _ _ rfl (by decide),
    order _ _ bound double rfl rfl same.le, order _ _ double bound rfl rfl same.ge⟩

end Workspace.Machine
