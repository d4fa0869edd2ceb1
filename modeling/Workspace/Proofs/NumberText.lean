import Mathlib.Data.List.TakeWhile
import Mathlib.Tactic.Ring
import Workspace.Json.Lexeme
import Workspace.Proofs.Rounding

/-! The text of a number reads back to it. A text is the spelling of a literal, whichever of
the forms it has; a literal is read from its spelling if what follows does not go on with
it; and the literal that is spelled for a number has its value. -/
namespace Workspace.Json
open Binary64 Text

/-- One or more digits. -/
structure Digits (ds : List Char) : Prop where
  nonempty : ds ≠ []
  each : ∀ c ∈ ds, c.isDigit = true

/-- No digit comes next. -/
def NoDigit (rest : List Char) : Prop := ∀ c cs, rest = c :: cs → c.isDigit = false

/-- A number that stands before it is not gone on with. -/
def EndsNumber (rest : List Char) : Prop :=
  ∀ c cs, rest = c :: cs → c.isDigit = false ∧ c ≠ '.' ∧ c ≠ 'e' ∧ c ≠ 'E'

section Reading
variable {ds rest : List Char}

lemma NoDigit.takeWhile (h : NoDigit rest) : rest.takeWhile Char.isDigit = [] := by
  cases rest with
  | nil => rfl
  | cons c cs => simp [h c cs rfl]

lemma NoDigit.dropWhile (h : NoDigit rest) : rest.dropWhile Char.isDigit = rest := by
  cases rest with
  | nil => rfl
  | cons c cs => simp [h c cs rfl]

lemma readDigits_append (hd : Digits ds) (hr : NoDigit rest) :
    readDigits (ds ++ rest) = .ok (ds, rest) := by
  cases ds with
  | nil => exact absurd rfl hd.nonempty
  | cons c cs =>
    have take : ((c :: cs) ++ rest).takeWhile Char.isDigit = c :: cs := by
      rw [List.takeWhile_append_of_pos hd.each, hr.takeWhile, List.append_nil]
    have drop : ((c :: cs) ++ rest).dropWhile Char.isDigit = rest := by
      rw [List.dropWhile_append_of_pos hd.each, hr.dropWhile]
    rw [List.cons_append] at take drop ⊢
    rw [readDigits, if_pos (hd.each c (by simp)), take, drop]

lemma readWhole_append (hd : Digits ds) (noZero : ∀ cs, ds = '0' :: cs → cs = [])
    (hr : NoDigit rest) : readWhole (ds ++ rest) = .ok (ds, rest) := by
  unfold readWhole
  split
  · rename_i c cs start
    cases ds with
    | nil => exact absurd rfl hd.nonempty
    | cons d ds =>
      simp only [List.cons_append, List.cons.injEq] at start
      obtain ⟨rfl, start⟩ := start
      obtain rfl := noZero ds rfl
      obtain rfl : rest = c :: cs := start
      simp [hr c cs rfl]
  · exact readDigits_append hd hr

lemma EndsNumber.noDigit (h : EndsNumber rest) : NoDigit rest := fun c cs hc => (h c cs hc).1

lemma endsNumber_nil : EndsNumber [] := by simp [EndsNumber]

end Reading

/-! Literals and how they are spelled. -/

namespace Literal

def fractionText : Option (List Char) → List Char
  | none => []
  | some ds => '.' :: ds

def exponentText : Option (Bool × List Char) → List Char
  | none => []
  | some (minus, ds) => 'e' :: (if minus then '-' else '+') :: ds

/-- The literal as it is spelled here: with the sign of the exponent, and a small letter. -/
def text (l : Literal) : List Char :=
  (if l.minus then ['-'] else []) ++
    (l.whole ++ (fractionText l.fraction ++ exponentText l.exponent))

/-- The grammar of numbers. -/
structure Proper (l : Literal) : Prop where
  whole : Digits l.whole
  noZero : ∀ cs, l.whole = '0' :: cs → cs = []
  fraction : ∀ ds, l.fraction = some ds → Digits ds
  exponent : ∀ minus ds, l.exponent = some (minus, ds) → Digits ds

/-- There are few digits before the point, and the exponent is not large. -/
structure Short (l : Literal) : Prop where
  whole : l.whole.length ≤ 20
  exponent : ∀ ds, l.exponent = some (false, ds) → digitsValue ds ≤ 400

variable {l : Literal} {rest : List Char}

lemma Proper.readExponent (h : l.Proper) (hr : EndsNumber rest) :
    readExponent (exponentText l.exponent ++ rest) = .ok (l.exponent, rest) := by
  cases he : l.exponent with
  | none =>
    cases rest with
    | nil => rfl
    | cons c cs => simp [exponentText, Json.readExponent, hr c cs rfl]
  | some e =>
    obtain ⟨minus, ds⟩ := e
    have digits := readDigits_append (h.exponent minus ds he) hr.noDigit
    cases minus <;> simp [exponentText, Json.readExponent, readSign, digits, bind, Except.bind]

lemma exponent_start (hr : EndsNumber rest) (e : Option (Bool × List Char)) :
    ∀ c cs, exponentText e ++ rest = c :: cs → c.isDigit = false ∧ c ≠ '.' := by
  intro c cs h
  cases e with
  | none => exact ⟨(hr c cs h).1, (hr c cs h).2.1⟩
  | some e =>
    obtain rfl : 'e' = c := (List.cons.inj h).1
    decide

lemma fraction_start (hr : ∀ c cs, rest = c :: cs → c.isDigit = false ∧ c ≠ '.')
    (f : Option (List Char)) : NoDigit (fractionText f ++ rest) := by
  intro c cs h
  cases f with
  | none => exact (hr c cs h).1
  | some ds =>
    obtain rfl : '.' = c := (List.cons.inj h).1
    decide

lemma Proper.readFraction (h : l.Proper)
    (hr : ∀ c cs, rest = c :: cs → c.isDigit = false ∧ c ≠ '.') :
    readFraction (fractionText l.fraction ++ rest) = .ok (l.fraction, rest) := by
  cases hf : l.fraction with
  | none =>
    unfold Json.readFraction
    split
    · rename_i cs start
      exact absurd rfl (hr _ cs start).2
    · rfl
  | some ds =>
    have noDigit : NoDigit rest := fun c cs h => (hr c cs h).1
    have digits := readDigits_append (h.fraction ds hf) noDigit
    simp [fractionText, Json.readFraction, digits, bind, Except.bind]

lemma Proper.readWhole (h : l.Proper)
    (hr : ∀ c cs, rest = c :: cs → c.isDigit = false ∧ c ≠ '.') :
    readWhole (l.whole ++ (fractionText l.fraction ++ rest)) =
      .ok (l.whole, fractionText l.fraction ++ rest) :=
  readWhole_append h.whole h.noZero (fraction_start hr l.fraction)

/-- Reads a literal behind its sign. -/
def readUnsigned (minus : Bool) : Reader Literal := fun cs => do
  let (whole, cs) ← Json.readWhole cs
  let (fraction, cs) ← Json.readFraction cs
  let (exponent, cs) ← Json.readExponent cs
  .ok (⟨minus, whole, fraction, exponent⟩, cs)

/-- Where there is no sign the text must not begin with one. -/
lemma readLiteral_sign {minus : Bool} {cs : List Char} (start : ∀ rest, cs ≠ '-' :: rest) :
    readLiteral ((if minus then ['-'] else []) ++ cs) = readUnsigned minus cs := by
  cases minus with
  | true => rfl
  | false =>
    simp only [Bool.false_eq_true, if_false, List.nil_append]
    unfold readLiteral
    split
    rename_i sign
    split at sign
    · exact absurd rfl (start _)
    · cases sign
      rfl

lemma Proper.noSign (h : l.Proper) (cs rest : List Char) : l.whole ++ cs ≠ '-' :: rest := by
  intro start
  obtain ⟨c, ds, hd⟩ := List.exists_cons_of_ne_nil h.whole.nonempty
  rw [hd] at start
  obtain rfl : c = '-' := (List.cons.inj start).1
  exact absurd (h.whole.each '-' (by simp [hd])) (by decide)

/-- A literal is read from its spelling. -/
lemma Proper.read (h : l.Proper) (hr : EndsNumber rest) :
    readLiteral (l.text ++ rest) = .ok (l, rest) := by
  have whole := h.readWhole (exponent_start hr l.exponent)
  have fraction := h.readFraction (exponent_start hr l.exponent)
  have exponent := h.readExponent hr
  rw [text, List.append_assoc, List.append_assoc, List.append_assoc,
    readLiteral_sign (h.noSign _)]
  simp [readUnsigned, whole, fraction, exponent, bind, Except.bind]

end Literal

/-! The digits of a number. -/

lemma digits_toDigits (n : Nat) : Digits (Nat.toDigits 10 n) where
  nonempty := Nat.toDigits_ne_nil
  each _ := Nat.isDigit_of_mem_toDigits (by decide) (by decide)

lemma digitsValue_toDigits (n : Nat) : digitsValue (Nat.toDigits 10 n) = n :=
  Nat.ofDigitChars_ten_toDigits

lemma digitsValue_append (ds es : List Char) :
    digitsValue (ds ++ es) = digitsValue ds * 10 ^ es.length + digitsValue es := by
  have append : digitsValue (ds ++ es) = Nat.ofDigitChars 10 es (digitsValue ds) :=
    Nat.ofDigitChars_append 0
  rw [append, Nat.ofDigitChars_eq_ofDigitChars_zero, Nat.mul_comm]
  rfl

lemma Digits.drop {ds : List Char} {k : Nat} (h : Digits ds) (long : k < ds.length) :
    Digits (ds.drop k) where
  nonempty := by simpa using long
  each c hc := h.each c (List.mem_of_mem_drop hc)

lemma digits_zero : Digits ['0'] := digits_toDigits 0

lemma isDigit_of_mem_zeros {k : Nat} {c : Char} (h : c ∈ List.replicate k '0') :
    c.isDigit = true := by
  rw [List.eq_of_mem_replicate h]
  rfl

lemma digitsValue_zeros (k : Nat) : digitsValue (List.replicate k '0') = 0 :=
  Nat.ofDigitChars_replicate_zero

lemma digitsValue_zeros_append (k : Nat) (ds : List Char) :
    digitsValue (List.replicate k '0' ++ ds) = digitsValue ds := by
  rw [digitsValue_append, digitsValue_zeros, Nat.zero_mul, Nat.zero_add]

lemma digitsValue_append_zeros (ds : List Char) (k : Nat) :
    digitsValue (ds ++ List.replicate k '0') = digitsValue ds * 10 ^ k := by
  rw [digitsValue_append, digitsValue_zeros, List.length_replicate, Nat.add_zero]

lemma noZero_toDigits {n : Nat} {cs : List Char} (h : Nat.toDigits 10 n = '0' :: cs) : cs = [] := by
  induction n using Nat.strongRecOn generalizing cs with
  | ind n ih =>
    rw [Nat.toDigits_eq_if (by decide)] at h
    split at h
    · exact (List.cons.inj h).2.symm
    · rename_i large
      obtain ⟨c, ds, hd⟩ := List.exists_cons_of_ne_nil (Nat.toDigits_ne_nil (n := n / 10) (b := 10))
      rw [hd, List.cons_append, List.cons.injEq] at h
      obtain ⟨rfl, rfl⟩ := h
      obtain rfl := ih (n / 10) (by omega) hd
      have value := digitsValue_toDigits (n / 10)
      rw [hd] at value
      have : digitsValue ['0'] = 0 := rfl
      omega

/-- Only zeros at the end are taken off. -/
lemma stripZeros_eq (ds : List Char) : ∃ k, ds = stripZeros ds ++ List.replicate k '0' := by
  have zeros : ds.reverse.takeWhile (· == '0') =
      List.replicate (ds.reverse.takeWhile (· == '0')).length '0' := by
    refine List.eq_replicate_of_mem fun c hc => ?_
    simpa using List.mem_takeWhile_imp hc
  refine ⟨(ds.reverse.takeWhile (· == '0')).length, ?_⟩
  have split := congrArg List.reverse
    (List.takeWhile_append_dropWhile (p := (· == '0')) (l := ds.reverse))
  rw [List.reverse_append, List.reverse_reverse, zeros, List.reverse_replicate] at split
  exact split.symm

/-- The digits of a number that is not zero, without the zeros at the end. -/
lemma stripZeros_toDigits {n : Nat} (hn : n ≠ 0) :
    let ds := stripZeros (Nat.toDigits 10 n)
    Digits ds ∧ (∀ cs, ds ≠ '0' :: cs) ∧
      ∃ k, (Nat.toDigits 10 n).length = ds.length + k ∧ n = digitsValue ds * 10 ^ k := by
  intro ds
  obtain ⟨k, digits⟩ : ∃ k, Nat.toDigits 10 n = ds ++ List.replicate k '0' := stripZeros_eq _
  have value : n = digitsValue ds * 10 ^ k := by
    rw [← digitsValue_append_zeros, ← digits, digitsValue_toDigits]
  have zero (h : digitsValue ds = 0) : False := hn (by rw [value, h, Nat.zero_mul])
  refine ⟨⟨?_, fun c hc => ?_⟩, fun cs start => ?_, k, ?_, value⟩
  · intro none
    exact zero (by rw [none]; rfl)
  · refine (digits_toDigits n).each c ?_
    rw [digits]
    exact List.mem_append_left _ hc
  · rw [start, List.cons_append] at digits
    obtain ⟨rfl, _⟩ := List.append_eq_nil_iff.mp (noZero_toDigits digits)
    exact zero (by rw [start]; rfl)
  · rw [digits, List.length_append, List.length_replicate]

namespace Decimal

/-- The text with the given digits and the point at the given place. -/
def spell (ds : List Char) (point : Int) : List Char :=
  if point < -4 ∨ 16 < point then
    let e := point - 1
    let mantissa := match ds with
      | first :: second :: rest => first :: '.' :: second :: rest
      | short => short
    mantissa ++ 'e' :: (if e < 0 then '-' else '+') :: Nat.toDigits 10 e.natAbs
  else if point ≤ 0 then '0' :: '.' :: (List.replicate (-point).toNat '0' ++ ds)
  else if ds.length ≤ point.toNat then
    ds ++ (List.replicate (point.toNat - ds.length) '0' ++ ['.', '0'])
  else ds.take point.toNat ++ '.' :: ds.drop point.toNat

lemma text_eq (d : Decimal) : d.text =
    spell (stripZeros (Nat.toDigits 10 d.digits))
      ((Nat.toDigits 10 d.digits).length + d.exponent) := rfl

/-- The literal of that spelling. -/
def spelled (negative : Bool) (ds : List Char) (point : Int) : Literal :=
  if point < -4 ∨ 16 < point then
    ⟨negative, ds.take 1, if ds.length ≤ 1 then none else some (ds.drop 1),
      some (decide (point - 1 < 0), Nat.toDigits 10 (point - 1).natAbs)⟩
  else if point ≤ 0 then
    ⟨negative, ['0'], some (List.replicate (-point).toNat '0' ++ ds), none⟩
  else if ds.length ≤ point.toNat then
    ⟨negative, ds ++ List.replicate (point.toNat - ds.length) '0', some ['0'], none⟩
  else ⟨negative, ds.take point.toNat, some (ds.drop point.toNat), none⟩

variable {negative : Bool} {ds : List Char} {point : Int}

lemma text_spelled (hd : ds ≠ []) : (spelled negative ds point).text =
    (if negative then ['-'] else []) ++ spell ds point := by
  unfold spelled spell
  split
  · obtain ⟨c, ds, rfl⟩ := List.exists_cons_of_ne_nil hd
    cases ds <;> simp [Literal.text, Literal.fractionText, Literal.exponentText]
  · split
    · simp [Literal.text, Literal.fractionText, Literal.exponentText]
    · split <;> simp [Literal.text, Literal.fractionText, Literal.exponentText]

lemma proper_spelled (hd : Digits ds) (noZero : ∀ cs, ds ≠ '0' :: cs) :
    (spelled negative ds point).Proper := by
  obtain ⟨c, cs, rfl⟩ := List.exists_cons_of_ne_nil hd.nonempty
  have first : c ≠ '0' := fun h => noZero cs (h ▸ rfl)
  -- The forms of a spelling: an exponent, a number below one, no fraction, a fraction.
  unfold spelled
  split
  · refine ⟨⟨by simp, by simp [hd.each c]⟩, by simp, ?_, ?_⟩
    · intro es some
      split at some
      · cases some
      · rename_i long
        cases some
        exact hd.drop (by omega)
    · rintro minus es some
      cases some
      exact digits_toDigits _
  · split
    · refine ⟨digits_zero, by simp, ?_, by simp⟩
      rintro es some
      cases some
      exact ⟨by simp, fun d h => (List.mem_append.mp h).elim isDigit_of_mem_zeros (hd.each d)⟩
    · split
      · refine ⟨⟨by simp, fun d h => ?_⟩, by simp [first], ?_, by simp⟩
        · exact (List.mem_append.mp h).elim (hd.each d) isDigit_of_mem_zeros
        · rintro es some
          cases some
          exact digits_zero
      · rename_i positive long
        obtain ⟨k, hk⟩ : ∃ k, point.toNat = k + 1 := ⟨point.toNat - 1, by omega⟩
        refine ⟨⟨by simp [hk], fun d h => hd.each d (List.mem_of_mem_take h)⟩,
          by simp [hk, first], ?_, by simp⟩
        rintro es some
        cases some
        exact hd.drop (by omega)

lemma short_spelled (bound : point ≤ 400) : (spelled negative ds point).Short := by
  unfold spelled
  split
  · refine ⟨by simp, ?_⟩
    rintro es same
    simp only [Option.some.injEq, Prod.mk.injEq, decide_eq_false_iff_not] at same
    obtain ⟨positive, rfl⟩ := same
    rw [digitsValue_toDigits]
    omega
  · split
    · exact ⟨by simp, by simp⟩
    · split
      · exact ⟨by simp; omega, by simp⟩
      · exact ⟨by simp; omega, by simp⟩

lemma ofLiteral?_exponent (negative : Bool) (whole : List Char) (fraction : Option (List Char))
    (e : Int) :
    Number.ofLiteral? ⟨negative, whole, fraction,
        some (decide (e < 0), Nat.toDigits 10 e.natAbs)⟩ =
      (ofDecimal? negative (digitsValue (whole ++ fraction.getD []))
        (e - (fraction.getD []).length)).map .double := by
  have power : (if decide (e < 0) = true then -(e.natAbs : Int) else e.natAbs) = e := by
    by_cases h : e < 0
    · rw [if_pos (decide_eq_true h)]
      omega
    · rw [if_neg (by simp [h])]
      omega
  cases fraction <;> simp only [Number.ofLiteral?, digitsValue_toDigits, power]

lemma value_spelled (hd : ds ≠ []) : Number.ofLiteral? (spelled negative ds point) =
    (ofDecimal? negative (digitsValue ds) (point - ds.length)).map .double := by
  -- In each form the point is moved back over the digits behind it.
  unfold spelled
  split
  · rw [ofLiteral?_exponent]
    obtain ⟨c, cs, rfl⟩ := List.exists_cons_of_ne_nil hd
    cases cs with
    | nil => simp
    | cons d cs =>
      simp only [List.length_cons, List.take_succ_cons, List.take_zero, List.drop_succ_cons,
        List.drop_zero]
      rw [if_neg (by omega), Option.getD_some]
      congr 2
      simp
      omega
  · split
    · have value (k : Nat) : digitsValue (['0'] ++ (List.replicate k '0' ++ ds)) = digitsValue ds :=
        digitsValue_zeros_append (k + 1) ds
      simp only [Number.ofLiteral?, Option.getD_some, value]
      congr 2
      simp
      omega
    · split
      · rename_i positive short
        have value (k : Nat) : digitsValue (ds ++ List.replicate k '0' ++ ['0']) =
            digitsValue ds * 10 ^ (k + 1) := by
          rw [← digitsValue_append_zeros, List.replicate_succ', List.append_assoc]
        simp only [Number.ofLiteral?, Option.getD_some, value, ofDecimal?_mul_pow]
        congr 2
        simp
        omega
      · rename_i positive long
        simp only [Number.ofLiteral?, Option.getD_some, List.take_append_drop]
        congr 2
        simp
        omega

/-- The text of a decimal is the spelling of a literal with its value. -/
lemma exists_literal {negative : Bool} {d : Decimal} {x : Binary64} (hd : d.digits ≠ 0)
    (reads : d.nearest? negative = some x) :
    ∃ l : Literal, l.Proper ∧ l.Short ∧
      l.text = (if negative then ['-'] else []) ++ d.text ∧
      Number.ofLiteral? l = some (.double x) := by
  have bound : decimalLength d.digits + d.exponent ≤ 400 := ofDecimal?_bound hd reads
  have text := d.text_eq
  obtain ⟨digits, noZero, k, length, value⟩ := stripZeros_toDigits hd
  generalize stripZeros (Nat.toDigits 10 d.digits) = ds at digits noZero length value text
  refine ⟨spelled negative ds ((Nat.toDigits 10 d.digits).length + d.exponent),
    proper_spelled digits noZero, short_spelled bound, ?_, ?_⟩
  · rw [text_spelled digits.nonempty, text]
  · have same : ofDecimal? negative (digitsValue ds) ((ds.length + k : Nat) + d.exponent -
        ds.length) = d.nearest? negative := by
      rw [nearest?, value, ofDecimal?_mul_pow]
      congr 1
      omega
    rw [value_spelled digits.nonempty, length, same, reads]
    rfl

end Decimal

namespace Number

lemma integer_literal (minus : Bool) {n : Nat} (h : n < 0x10000000000000000) :
    let l : Literal := ⟨minus, Nat.toDigits 10 n, none, none⟩
    l.Proper ∧ l.Short :=
  ⟨⟨digits_toDigits n, fun _ => noZero_toDigits, by simp, by simp⟩,
    ⟨(decimalLength_le_iff (by decide)).mpr (by omega), by simp⟩⟩

lemma zero_literal {x : Binary64} (zero : x.units = 0) :
    let l : Literal := ⟨x.negative, ['0'], some ['0'], none⟩
    l.Proper ∧ l.Short ∧ ofLiteral? l = some (.double x) := by
  refine ⟨⟨digits_zero, by simp, ?_, by simp⟩, ⟨by simp, by simp⟩, ?_⟩
  · rintro ds some
    cases some
    exact digits_zero
  · have value : digitsValue (['0'] ++ ['0']) = 0 := rfl
    simp only [ofLiteral?, Option.getD_some, value, ofDecimal?_zero, Option.map_some]
    rw [← units_eq_zero_iff.mp zero]

/-- The text of a number is the spelling of a literal of that number. -/
lemma exists_literal (n : Number) :
    ∃ l : Literal, l.Proper ∧ l.Short ∧ l.text = n.text ∧ ofLiteral? l = some n := by
  cases n with
  | natural n h =>
    obtain ⟨proper, short⟩ := integer_literal false h
    refine ⟨_, proper, short, ?_, ?_⟩
    · simp [Literal.text, Literal.fractionText, Literal.exponentText, text]
    · simp [ofLiteral?, digitsValue_toDigits, ofInteger?, h]
  | negative n h =>
    obtain ⟨proper, short⟩ := integer_literal true (n := n) (by omega)
    refine ⟨_, proper, short, ?_, ?_⟩
    · simp [Literal.text, Literal.fractionText, Literal.exponentText, text]
    · simp [ofLiteral?, digitsValue_toDigits, ofInteger?, h]
  | double x =>
    by_cases zero : x.units = 0
    · obtain ⟨proper, short, value⟩ := zero_literal zero
      refine ⟨_, proper, short, ?_, value⟩
      simp [Literal.text, Literal.fractionText, Literal.exponentText, text, Binary64.text, zero]
    · have reads := Decimal.nearest?_shortest zero
      have digits : (Decimal.shortest x).digits ≠ 0 := by
        intro none
        rw [Decimal.nearest?, none, ofDecimal?_zero, Option.some.injEq] at reads
        exact zero (units_eq_zero_iff.mpr reads.symm)
      obtain ⟨l, proper, short, spelling, value⟩ := Decimal.exists_literal digits reads
      refine ⟨l, proper, short, ?_, value⟩
      simp [spelling, text, Binary64.text, zero]

end Number

section Numbers
variable {rest : List Char}

/-- The text of a number is read as it, unless it is gone on with. -/
theorem readNumber_text (n : Number) (hr : EndsNumber rest) :
    readNumber (n.text ++ rest) = .ok (n, rest) := by
  obtain ⟨l, proper, _, spelling, value⟩ := n.exists_literal
  rw [← spelling]
  simp [readNumber, proper.read hr, value, bind, Except.bind]

/-- A number begins with a sign or a digit. -/
lemma text_start (n : Number) : ∃ c cs, n.text = c :: cs ∧ (c = '-' ∨ c.isDigit = true) := by
  obtain ⟨⟨minus, whole, fraction, exponent⟩, proper, _, spelling, _⟩ := n.exists_literal
  rw [← spelling]
  cases minus with
  | true => exact ⟨'-', _, rfl, Or.inl rfl⟩
  | false =>
    obtain ⟨c, cs, rfl⟩ := List.exists_cons_of_ne_nil proper.whole.nonempty
    exact ⟨c, _, rfl, Or.inr (proper.whole.each c (by simp))⟩

end Numbers

end Workspace.Json
