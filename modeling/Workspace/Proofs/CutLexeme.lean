import Mathlib.Data.List.Induction
import Workspace.Proofs.NumberText
import Workspace.Proofs.StringText

/-! What is left of a word, a string or a number when its text is cut. A part of a word or of a
string is never taken for the whole. A part of a number may be a number of its own, but then
nothing is left behind it, and it is in range: it has no more digits before the point than the
number has, and an exponent that was cut is small. -/
namespace Workspace.Json
open Binary64 Text

/-- The text ends before what is read does. -/
def CutOff {α : Type} (x : Except Fault α) : Prop := ∃ inside, x = .error (.cutOff inside)

/-- The text ends, if not before what is read then with it. -/
def RunsOut {α : Type} (x : Except Fault (α × List Char)) : Prop :=
  CutOff x ∨ ∃ a, x = .ok (a, [])

section Results
variable {α β : Type}

lemma cutOff_error (inside : Region) : CutOff (.error (.cutOff inside) : Except Fault α) :=
  ⟨inside, rfl⟩

lemma CutOff.bind {x : Except Fault α} (h : CutOff x) (f : α → Except Fault β) :
    CutOff (x >>= f) := by
  obtain ⟨inside, rfl⟩ := h
  exact cutOff_error inside

lemma CutOff.runsOut {x : Except Fault (α × List Char)} (h : CutOff x) : RunsOut x := Or.inl h

lemma runsOut_ok (a : α) : RunsOut (.ok (a, [])) := Or.inr ⟨a, rfl⟩

/-- Whatever more is to be read is cut off. -/
lemma RunsOut.bind {x : Except Fault (α × List Char)} (h : RunsOut x)
    {f : α × List Char → Except Fault β} (further : ∀ a, CutOff (f (a, []))) :
    CutOff (x >>= f) := by
  rcases h with cut | ⟨a, rfl⟩
  · exact cut.bind f
  · exact further a

/-- Where a text of two pieces is cut: in the first, or behind it. -/
lemma cut_append {p as bs : List α} (h : p <+: as ++ bs) :
    (p <+: as ∧ p ≠ as) ∨ ∃ q, p = as ++ q ∧ q <+: bs := by
  obtain ⟨rest, same⟩ := h
  rcases List.append_eq_append_iff.mp same with ⟨further, rfl, _⟩ | ⟨q, rfl, behind⟩
  · by_cases whole : further = []
    · exact Or.inr ⟨[], by simp [whole], List.nil_prefix⟩
    · exact Or.inl ⟨List.prefix_append p further, by simp [whole]⟩
  · exact Or.inr ⟨q, rfl, ⟨rest, behind.symm⟩⟩

end Results

section Words
variable {p word : List Char}

lemma cutOff_readWord (hp : p <+: word) (cut : p ≠ word) : CutOff (readWord word p) := by
  induction word generalizing p with
  | nil => exact absurd (List.prefix_nil.mp hp) cut
  | cons w word ih =>
    rcases List.prefix_cons_iff.mp hp with rfl | ⟨q, rfl, hq⟩
    · exact cutOff_error _
    · rw [readWord, if_pos rfl]
      refine ih hq ?_
      rintro rfl
      exact cut rfl

end Words

section Strings
variable {p : List Char}

/-- The forms of a character inside quotes. -/
lemma escape_cases (c : Char) : escape c = [c] ∨ (∃ d, escape c = ['\\', d]) ∨
    ∃ a b, escape c = ['\\', 'u', '0', '0', a, b] ∧ a.utf8Size = 1 := by
  have digit (n : Nat) (h : n < 16) : (hexDigit n).utf8Size = 1 := by
    revert n
    decide
  unfold escape
  iterate 7
    split
    · exact Or.inr (Or.inl ⟨_, rfl⟩)
  split
  · exact Or.inr (Or.inr ⟨_, _, rfl, digit _ (by omega)⟩)
  · exact Or.inl rfl

/-- What is left of a character is not read as another. -/
lemma cutOff_escape {c : Char} (hp : p <+: escape c) (cut : p ≠ escape c) (steps : Nat) :
    CutOff (readChars readCodePoint steps p) := by
  cases steps with
  | zero => exact cutOff_error _
  | succ steps =>
    rcases escape_cases c with same | ⟨d, same⟩ | ⟨a, b, same, single⟩
    all_goals
      rw [same] at hp cut
      simp only [List.prefix_cons_iff, List.prefix_nil] at hp
    · rcases hp with rfl | ⟨_, rfl, rfl⟩
      · exact cutOff_error _
      · exact absurd rfl cut
    · rcases hp with rfl | ⟨_, rfl, rfl | ⟨_, rfl, rfl⟩⟩
      · exact cutOff_error _
      · exact cutOff_error _
      · exact absurd rfl cut
    · have short : utf8Length ['0', '0', a] < 4 := by
        simp only [utf8Length, single]
        decide
      rcases hp with rfl | ⟨_, rfl, rfl | ⟨_, rfl, rfl | ⟨_, rfl, rfl | ⟨_, rfl, rfl |
        ⟨_, rfl, rfl | ⟨_, rfl, rfl⟩⟩⟩⟩⟩⟩
      iterate 5 exact cutOff_error _
      · have unit : readUnit ['0', '0', a] = .error (.cutOff .string) := if_pos short
        simp [readChars, readEscape, readCodePoint, unit, bind, Except.bind, CutOff]
      · exact absurd rfl cut

lemma cutOff_readChars {cs : List Char} (hp : p <+: cs.flatMap escape) (steps : Nat) :
    CutOff (readChars readCodePoint steps p) := by
  induction cs generalizing p steps with
  | nil =>
    obtain rfl := List.prefix_nil.mp hp
    cases steps <;> exact cutOff_error _
  | cons c cs ih =>
    cases steps with
    | zero => exact cutOff_error _
    | succ steps =>
      rw [List.flatMap_cons] at hp
      rcases cut_append hp with ⟨inside, cut⟩ | ⟨q, rfl, hq⟩
      · exact cutOff_escape inside cut (steps + 1)
      · rw [readChars_escape]
        exact (ih hq steps).bind _

lemma quote_cut {s : String} (hp : p <+: quote s) (cut : p ≠ quote s) :
    p = [] ∨ ∃ q, p = '"' :: q ∧ CutOff (readString q) := by
  rcases List.prefix_cons_iff.mp hp with rfl | ⟨q, rfl, hq⟩
  · exact Or.inl rfl
  · have inside : q <+: s.toList.flatMap escape :=
      (List.prefix_concat_iff.mp hq).resolve_left fun same => cut (by rw [same]; rfl)
    exact Or.inr ⟨q, rfl, (cutOff_readChars inside q.length).bind _⟩

end Strings

/-! Numbers. -/

section Digits
variable {ds es p : List Char}

lemma Digits.initial (h : Digits ds) (hp : p <+: ds) (nonempty : p ≠ []) : Digits p :=
  ⟨nonempty, fun c hc => h.each c (hp.subset hc)⟩

lemma NoDigit.initial (h : NoDigit ds) (hp : p <+: ds) : NoDigit p := by
  rintro c cs rfl
  obtain ⟨rest, same⟩ := hp
  exact h c (cs ++ rest) same.symm

lemma digitsValue_lt (h : ∀ c ∈ ds, c.isDigit = true) : digitsValue ds < 10 ^ ds.length := by
  induction ds using List.reverseRecOn with
  | nil => decide
  | append_singleton ds c ih =>
    have digit : digitsValue [c] < 10 := by
      have last := h c (by simp)
      simp only [Char.isDigit, Bool.and_eq_true, decide_eq_true_eq] at last
      have bound : c.toNat ≤ 57 := last.2
      simp only [digitsValue, List.foldl_cons, List.foldl_nil]
      have zero : '0'.toNat = 48 := rfl
      omega
    have front := ih fun d hd => h d (by simp [hd])
    rw [digitsValue_append, List.length_append, Nat.pow_add]
    simp only [List.length_singleton, Nat.pow_one]
    omega

/-- Without its last digit a number is no more than a tenth. -/
lemma digitsValue_cut (hp : p <+: ds) (cut : p ≠ ds) : 10 * digitsValue p ≤ digitsValue ds := by
  obtain ⟨rest, rfl⟩ := hp
  have nonempty : rest ≠ [] := by
    rintro rfl
    exact cut (List.append_nil p).symm
  obtain ⟨c, rest, rfl⟩ := List.exists_cons_of_ne_nil nonempty
  have power : 10 ≤ 10 ^ (rest.length + 1) := Nat.le_self_pow (by simp) 10
  rw [digitsValue_append, List.length_cons, Nat.mul_comm]
  exact (Nat.mul_le_mul_left _ power).trans (Nat.le_add_right _ _)

lemma decimalLength_digitsValue (h : Digits ds) : decimalLength (digitsValue ds) ≤ ds.length :=
  (decimalLength_le_iff (List.length_pos_iff.mpr h.nonempty)).mpr (digitsValue_lt h.each)

/-- Few digits, a fraction and a small exponent have a double nearest to them. -/
lemma Digits.exists_nearest (h : Digits ds) (few : ds.length ≤ 20)
    (each : ∀ c ∈ es, c.isDigit = true) {power : Int} (small : power ≤ 40) (negative : Bool) :
    ∃ x, ofDecimal? negative (digitsValue (ds ++ es)) (power - es.length) = some x := by
  have digits : Digits (ds ++ es) := ⟨by simp [h.nonempty], fun c hc =>
    (List.mem_append.mp hc).elim (h.each c) (each c)⟩
  have length := decimalLength_digitsValue digits
  rw [List.length_append] at length
  exact Decimal.exists_nearest negative (by omega)

end Digits

namespace Literal
variable {l l' : Literal} {p : List Char}

/-- What is left of a literal: part of its digits before the point, and if anything of the exponent
then not all of it. -/
structure Begins (l' l : Literal) : Prop where
  whole : l'.whole <+: l.whole
  exponent : ∀ minus ds, l'.exponent = some (minus, ds) →
    ∃ es, l.exponent = some (minus, es) ∧ ds <+: es ∧ ds ≠ es

lemma whole_cut (h : l.Proper) (hp : p <+: l.whole) :
    CutOff (Json.readWhole p) ∨ Digits p ∧ ∀ cs, p = '0' :: cs → cs = [] := by
  by_cases nonempty : p = []
  · subst nonempty
    exact Or.inl (cutOff_error _)
  · refine Or.inr ⟨h.whole.initial hp nonempty, ?_⟩
    rintro cs rfl
    obtain ⟨rest, same⟩ := hp
    exact (List.append_eq_nil_iff.mp (h.noZero _ same.symm)).1

lemma fraction_cut (h : l.Proper) (hp : p <+: fractionText l.fraction) :
    CutOff (readFraction p) ∨
      ∃ f, p = fractionText f ∧ ∀ es, f = some es → Digits es := by
  cases hf : l.fraction with
  | none =>
    rw [hf] at hp
    exact Or.inr ⟨none, List.prefix_nil.mp hp, by simp⟩
  | some ds =>
    rw [hf] at hp
    rcases List.prefix_cons_iff.mp hp with rfl | ⟨es, rfl, hes⟩
    · exact Or.inr ⟨none, rfl, by simp⟩
    by_cases nonempty : es = []
    · subst nonempty
      exact Or.inl (cutOff_error _)
    · refine Or.inr ⟨some es, rfl, ?_⟩
      rintro _ ⟨⟩
      exact (h.fraction ds hf).initial hes nonempty

lemma exponent_cut (h : l.Proper) (hp : p <+: exponentText l.exponent)
    (cut : p ≠ exponentText l.exponent) : CutOff (readExponent p) ∨
      ∃ e, p = exponentText e ∧ ∀ minus es, e = some (minus, es) → Digits es ∧
        ∃ ds, l.exponent = some (minus, ds) ∧ es <+: ds ∧ es ≠ ds := by
  cases he : l.exponent with
  | none =>
    rw [he] at hp cut
    exact absurd (List.prefix_nil.mp hp) cut
  | some e =>
    obtain ⟨minus, ds⟩ := e
    rw [he] at hp cut
    rcases List.prefix_cons_iff.mp hp with rfl | ⟨_, rfl, signed⟩
    · exact Or.inr ⟨none, rfl, by simp⟩
    rcases List.prefix_cons_iff.mp signed with rfl | ⟨es, rfl, hes⟩
    · exact Or.inl (cutOff_error _)
    by_cases nonempty : es = []
    · subst nonempty
      refine Or.inl ?_
      cases minus <;> exact cutOff_error _
    · refine Or.inr ⟨some (minus, es), rfl, ?_⟩
      rintro _ _ ⟨⟩
      refine ⟨(h.exponent minus ds he).initial hes nonempty, ds, rfl, hes, ?_⟩
      rintro rfl
      exact cut rfl

lemma Proper.cutOff_fraction (h : l.Proper) (noDigit : NoDigit p)
    (fails : CutOff (Json.readFraction p)) : CutOff (readUnsigned l.minus (l.whole ++ p)) := by
  rw [readUnsigned, readWhole_append h.whole h.noZero noDigit]
  exact fails.bind _

lemma Proper.cutOff_exponent (h : l.Proper)
    (start : ∀ c cs, p = c :: cs → c.isDigit = false ∧ c ≠ '.')
    (fails : CutOff (Json.readExponent p)) :
    CutOff (readUnsigned l.minus (l.whole ++ (fractionText l.fraction ++ p))) := by
  rw [readUnsigned, h.readWhole start]
  simp only [bind, Except.bind, h.readFraction start]
  exact fails.bind _

/-- Behind the sign. -/
lemma Proper.cut_unsigned (h : l.Proper)
    (hp : p <+: l.whole ++ (fractionText l.fraction ++ exponentText l.exponent))
    (cut : p ≠ l.whole ++ (fractionText l.fraction ++ exponentText l.exponent)) :
    CutOff (readUnsigned l.minus p) ∨ ∃ l' : Literal, l'.minus = l.minus ∧ l'.Proper ∧ l'.Begins l ∧
      p = l'.whole ++ (fractionText l'.fraction ++ exponentText l'.exponent) := by
  rcases cut_append hp with ⟨hw, _⟩ | ⟨q, rfl, hq⟩
  · rcases whole_cut h hw with fails | ⟨digits, noZero⟩
    · exact Or.inl (fails.bind _)
    · exact Or.inr ⟨⟨l.minus, p, none, none⟩, rfl, ⟨digits, noZero, by simp, by simp⟩,
        ⟨hw, by simp⟩, by simp [fractionText, exponentText]⟩
  rcases cut_append hq with ⟨hf, _⟩ | ⟨r, rfl, hr⟩
  · have noDigit : NoDigit q := by
      have behind := fraction_start (exponent_start endsNumber_nil l.exponent) l.fraction
      rw [List.append_nil] at behind
      exact behind.initial hq
    rcases fraction_cut h hf with fails | ⟨f, rfl, digits⟩
    · exact Or.inl (h.cutOff_fraction noDigit fails)
    · exact Or.inr ⟨⟨l.minus, l.whole, f, none⟩, rfl, ⟨h.whole, h.noZero, digits, by simp⟩,
        ⟨List.prefix_rfl, by simp⟩, by simp [exponentText]⟩
  · rcases exponent_cut h hr (fun same => cut (by rw [same])) with fails | ⟨e, rfl, digits⟩
    · have start : ∀ c cs, r = c :: cs → c.isDigit = false ∧ c ≠ '.' := by
        rintro c cs rfl
        obtain ⟨rest, same⟩ := hr
        exact exponent_start endsNumber_nil l.exponent c (cs ++ rest) (by rw [← same]; simp)
      exact Or.inl (h.cutOff_exponent start fails)
    · exact Or.inr ⟨⟨l.minus, l.whole, l.fraction, e⟩, rfl,
        ⟨h.whole, h.noZero, h.fraction, fun minus es same => (digits minus es same).1⟩,
        ⟨List.prefix_rfl, fun minus es same => (digits minus es same).2⟩, rfl⟩

/-- A part of a literal is cut off, or is a literal that begins the whole one. -/
lemma Proper.cut (h : l.Proper) (hp : p <+: l.text) (cut : p ≠ l.text) :
    CutOff (readLiteral p) ∨ ∃ l' : Literal, l'.Proper ∧ l'.Begins l ∧ p = l'.text := by
  rcases cut_append hp with ⟨sign, shorter⟩ | ⟨q, rfl, hq⟩
  · have none : p = [] := by
      cases hm : l.minus with
      | false =>
        rw [hm] at sign shorter
        exact absurd (List.prefix_nil.mp sign) shorter
      | true =>
        rw [hm] at sign shorter
        rcases List.prefix_cons_iff.mp sign with none | ⟨q, rfl, hq⟩
        · exact none
        · exact absurd (by rw [List.prefix_nil.mp hq]; rfl) shorter
    exact Or.inl (none ▸ cutOff_error .value)
  · have start (rest : List Char) : q ≠ '-' :: rest := by
      rintro rfl
      obtain ⟨further, same⟩ := hq
      exact h.noSign _ _ same.symm
    rw [readLiteral_sign start]
    rcases h.cut_unsigned hq (fun same => cut (by rw [same]; rfl)) with fails | ⟨l', minus, rest⟩
    · exact Or.inl fails
    · exact Or.inr ⟨l', rest.1, rest.2.1, by rw [text, minus, ← rest.2.2]⟩

/-- What is left of a short literal is a number, if it is a literal. -/
lemma Begins.exists_number (hb : l'.Begins l) (short : l.Short) (h : l'.Proper) :
    ∃ n, Number.ofLiteral? l' = some n := by
  obtain ⟨minus, ds, fraction, exponent⟩ := l'
  have few : ds.length ≤ 20 := hb.whole.length_le.trans short.whole
  have double (fs : List Char) (each : ∀ c ∈ fs, c.isDigit = true) (power : Int)
      (small : power ≤ 40) :
      ∃ n, (ofDecimal? minus (digitsValue (ds ++ fs)) (power - fs.length)).map Number.double =
        some n := by
    obtain ⟨x, value⟩ := h.whole.exists_nearest few each small minus
    exact ⟨.double x, by rw [value]; rfl⟩
  have positive (es : List Char) (he : exponent = some (false, es)) :
      (digitsValue es : Int) ≤ 40 := by
    obtain ⟨whole, same, part, cut⟩ := hb.exponent false es he
    have := digitsValue_cut part cut
    have := short.exponent whole same
    omega
  have negative (es : List Char) : -(digitsValue es : Int) ≤ 40 := by omega
  match fraction, exponent with
  | none, none =>
    have integer := double [] (by simp) 0 (by decide)
    simp only [List.append_nil, List.length_nil, Nat.cast_zero, sub_zero] at integer
    simp only [Number.ofLiteral?, Number.ofInteger?]
    cases minus
    all_goals
      simp only [Bool.false_eq_true, if_true, if_false]
      split_ifs
      · exact ⟨_, rfl⟩
      · exact integer
  | none, some (false, es) => exact double [] (by simp) _ (positive es rfl)
  | none, some (true, es) => exact double [] (by simp) _ (negative es)
  | some fs, none => exact double fs (h.fraction fs rfl).each 0 (by decide)
  | some fs, some (false, es) => exact double fs (h.fraction fs rfl).each _ (positive es rfl)
  | some fs, some (true, es) => exact double fs (h.fraction fs rfl).each _ (negative es)

end Literal

/-- What is left of a number, if it is a number, is so to the end. -/
lemma runsOut_readNumber {n : Number} {p : List Char} (hp : p <+: n.text) (cut : p ≠ n.text) :
    RunsOut (readNumber p) := by
  obtain ⟨l, proper, short, spelling, _⟩ := n.exists_literal
  rw [← spelling] at hp cut
  rcases proper.cut hp cut with fails | ⟨l', proper', begins, rfl⟩
  · exact (fails.bind _).runsOut
  · have read := proper'.read endsNumber_nil
    obtain ⟨m, value⟩ := begins.exists_number short proper'
    rw [List.append_nil] at read
    simp [readNumber, read, value, bind, Except.bind, runsOut_ok]

end Workspace.Json
