import Mathlib.Tactic.Lemma
import Mathlib.Tactic.SplitIfs

/-! The order of texts is the order of their UTF-8 bytes. An encoding is a leading byte and
continuation bytes, the digits of the code point to the base 64. Of two characters the
greater has the greater leading byte or, behind an equal one, the greater digits; what
follows the characters has no say. -/
namespace Workspace.Text

/-- The bytes of the text in UTF-8. -/
def utf8 (s : String) : List UInt8 := s.toUTF8.data.toList

/-- The last `k` digits to the base 64, each marked as a continuation. -/
def continuation : Nat → Nat → List UInt8
  | 0, _ => []
  | k + 1, v => UInt8.ofNat (v / Nat.pow 64 k % 64 + 0x80) :: continuation k v

/-- How many continuation bytes a code point takes. -/
def trail (v : Nat) : Nat :=
  if v ≤ 0x7f then 0 else if v ≤ 0x7ff then 1 else if v ≤ 0xffff then 2 else 3

/-- The leading byte: the mark of the length, and the digits that are not continued. -/
def lead (v : Nat) : Nat :=
  if v ≤ 0x7f then v
  else if v ≤ 0x7ff then v / 64 + 0xc0
  else if v ≤ 0xffff then v / 4096 + 0xe0
  else v / 262144 + 0xf0

lemma utf8_eq (s : String) : utf8 s = s.toList.flatMap String.utf8EncodeChar := by
  simp only [utf8, String.toUTF8_eq_toByteArray, ← String.utf8Encode_toList]
  exact List.toList_data_toByteArray

lemma toNat_lt (c : Char) : c.toNat < 0x110000 := by
  rcases c.valid with h | ⟨_, h⟩
  · exact Nat.lt_trans h (by decide)
  · exact h

lemma utf8EncodeChar_eq (c : Char) : String.utf8EncodeChar c =
    UInt8.ofNat (lead c.toNat) :: continuation (trail c.toNat) c.toNat := by
  have bound := toNat_lt c
  simp only [String.utf8EncodeChar, Char.toNat_val, lead, trail]
  split_ifs with h1 h2 h3
  · rfl
  · have digit : c.toNat / 64 % 0x20 = c.toNat / 64 := by omega
    simp [continuation, digit]
  · have digit : c.toNat / 4096 % 0x10 = c.toNat / 4096 := by omega
    simp [continuation, digit]
  · have digit : c.toNat / 262144 % 0x08 = c.toNat / 262144 := by omega
    simp [continuation, digit]

lemma byte_lt {m n : Nat} (hn : n < 256) (h : m < n) : UInt8.ofNat m < UInt8.ofNat n := by
  rw [UInt8.lt_iff_toNat_lt, UInt8.toNat_ofNat', UInt8.toNat_ofNat']
  omega

/-- While the digits before are equal, the order is decided among the continuations. -/
lemma continuation_append_lt {k v w : Nat} (h : v < w)
    (before : v / Nat.pow 64 k = w / Nat.pow 64 k) (s t : List UInt8) :
    continuation k v ++ s < continuation k w ++ t := by
  induction k with
  | zero => simp at before; omega
  | succ k ih =>
    simp only [continuation, List.cons_append, List.cons_lt_cons_iff]
    by_cases equal : v / Nat.pow 64 k = w / Nat.pow 64 k
    · exact Or.inr ⟨by rw [equal], ih equal⟩
    · have le : v / Nat.pow 64 k ≤ w / Nat.pow 64 k := Nat.div_le_div_right (Nat.le_of_lt h)
      have higher : v / Nat.pow 64 k / 64 = w / Nat.pow 64 k / 64 := by
        rw [Nat.div_div_eq_div_mul, Nat.div_div_eq_div_mul]
        exact before
      exact Or.inl (byte_lt (by omega) (by omega))

lemma lead_lt_or {v w : Nat} (h : v < w) (bound : w < 0x110000) :
    lead v < lead w ∨ lead v = lead w ∧ trail v = trail w ∧
      v / Nat.pow 64 (trail v) = w / Nat.pow 64 (trail v) := by
  have zero : Nat.pow 64 0 = 1 := rfl
  have one : Nat.pow 64 1 = 64 := rfl
  have two : Nat.pow 64 2 = 4096 := rfl
  have three : Nat.pow 64 3 = 262144 := rfl
  unfold lead trail
  split_ifs <;> simp only [zero, one, two, three, true_and] <;> omega

lemma utf8EncodeChar_append_lt {c d : Char} (h : c < d) (s t : List UInt8) :
    String.utf8EncodeChar c ++ s < String.utf8EncodeChar d ++ t := by
  have hv : c.toNat < d.toNat := UInt32.lt_iff_toNat_lt.mp h
  rw [utf8EncodeChar_eq, utf8EncodeChar_eq, List.cons_append, List.cons_append,
    List.cons_lt_cons_iff]
  have small : lead d.toNat < 256 := by
    have bound := toNat_lt d
    unfold lead
    split_ifs <;> omega
  rcases lead_lt_or hv (toNat_lt d) with less | ⟨equal, length, before⟩
  · exact Or.inl (byte_lt small less)
  · rw [← length]
    exact Or.inr ⟨by rw [equal], continuation_append_lt hv before s t⟩

/-- A lesser text has the lesser bytes. -/
theorem utf8_lt {a b : String} (h : a < b) : utf8 a < utf8 b := by
  rw [utf8_eq, utf8_eq]
  have lex : List.Lex (· < ·) a.toList b.toList := h
  generalize a.toList = cs, b.toList = ds at lex
  induction lex with
  | @nil c cs =>
    obtain ⟨x, xs, hx⟩ := List.exists_cons_of_ne_nil (String.utf8EncodeChar_ne_nil (c := c))
    simp [List.flatMap_cons, hx]
  | cons _ ih => exact List.append_left_lt ih
  | rel h => exact utf8EncodeChar_append_lt h _ _

end Workspace.Text
