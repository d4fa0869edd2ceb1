import Mathlib.Tactic.Common
import Workspace.Json.Lexeme
import Workspace.Json.Writer

/-! The text of a string reads back to it, character by character: each is written as
itself or as an escape, and one step of reading takes what was written for it. -/
namespace Workspace.Json

lemma hexValue?_hexDigit : ∀ n < 16, Text.hexValue? (hexDigit n) = some n := by
  decide

/-- The escape of a control character. -/
lemma readCodePoint_control {c : Char} (h : c.toNat < 32) (rest : List Char) :
    readCodePoint ('0' :: '0' :: hexDigit (c.toNat / 16) :: hexDigit (c.toNat % 16) :: rest) =
      .ok (c, rest) := by
  have zero : Text.hexValue? '0' = some 0 := by decide
  have high := hexValue?_hexDigit (c.toNat / 16) (by omega)
  have low := hexValue?_hexDigit (c.toNat % 16) (by omega)
  have unit : ((0 * 16 + 0) * 16 + c.toNat / 16) * 16 + c.toNat % 16 = c.toNat := by omega
  have single : isTrailing c.toNat = false ∧ isLeading c.toNat = false := by
    simp [isTrailing, isLeading]
    omega
  simp only [readCodePoint, readUnit, zero, high, low, unit, bind, Except.bind, single,
    Char.ofNat_toNat]
  rfl

lemma eq_of_toNat {c : Char} {n : Nat} (h : c.toNat = n) : Char.ofNat n = c := by
  rw [← h, Char.ofNat_toNat]

/-- One step reads one character. -/
lemma readChars_escape (c : Char) (steps : Nat) (rest : List Char) :
    readChars readCodePoint (steps + 1) (escape c ++ rest) = (do
      let (xs, rest) ← readChars readCodePoint steps rest
      .ok (c :: xs, rest)) := by
  unfold escape
  split_ifs with h₁ h₂ h₃ h₄ h₅ h₆ h₇ h₈
  · subst h₁
    rfl
  · subst h₂
    rfl
  · subst h₃
    rfl
  · subst h₄
    rfl
  · subst h₅
    rfl
  · obtain rfl := eq_of_toNat h₆
    rfl
  · obtain rfl := eq_of_toNat h₇
    rfl
  · have point := readCodePoint_control h₈ rest
    simp [readChars, readEscape, point, bind, Except.bind]
  · simp [readChars, h₁, h₂, h₈]

lemma readChars_flatMap {cs : List Char} {steps : Nat} (h : cs.length < steps)
    (rest : List Char) :
    readChars readCodePoint steps (cs.flatMap escape ++ '"' :: rest) = .ok (cs, rest) := by
  induction cs generalizing steps with
  | nil =>
    obtain ⟨steps, rfl⟩ := Nat.exists_eq_add_one_of_ne_zero (Nat.ne_of_gt h)
    rfl
  | cons c cs ih =>
    obtain ⟨steps, rfl⟩ := Nat.exists_eq_add_one_of_ne_zero (Nat.ne_of_gt (Nat.zero_lt_of_lt h))
    rw [List.flatMap_cons, List.append_assoc, readChars_escape, ih (by simpa using h)]
    rfl

lemma length_le_flatMap_escape (cs : List Char) : cs.length ≤ (cs.flatMap escape).length := by
  have positive (c : Char) : 0 < (escape c).length := by
    unfold escape
    split_ifs <;> simp
  induction cs with
  | nil => simp
  | cons c cs ih =>
    have := positive c
    rw [List.flatMap_cons, List.length_append, List.length_cons]
    omega

/-- A string is read from its text, behind the opening quote. -/
theorem readString_quote (s : String) (rest : List Char) :
    readString (s.toList.flatMap escape ++ '"' :: rest) = .ok (s, rest) := by
  have enough : s.toList.length < (s.toList.flatMap escape ++ '"' :: rest).length := by
    have := length_le_flatMap_escape s.toList
    rw [List.length_append, List.length_cons]
    omega
  rw [readString, readChars_flatMap enough]
  simp [bind, Except.bind]

end Workspace.Json
