import Mathlib.Data.List.DropRight
import Mathlib.Data.Nat.Digits.Defs
import Workspace.Proofs.NumberText
import Workspace.Proofs.NumericLimit

/-! Limits that are stored as texts. A text is read as an integer by one grammar: blanks around it
do not count, then there may be a sign, and then there are digits, which have their value in
place notation. A text that spells a word is read as the word stored as a number is; any other
text, among them an integer beyond the word, sets no limit. -/
namespace Workspace

namespace Text
open Json (Digits)
variable {cs core ds : List Char} {s : String} {n : ℤ}

/-! Without the blanks around it. -/

/-- What is left of a text when the blanks at both of its ends are taken away. -/
structure Core (cs core : List Char) : Prop where
  split : ∃ before after, cs = before ++ (core ++ after) ∧
    (∀ c ∈ before, isBlank c = true) ∧ ∀ c ∈ after, isBlank c = true
  first : ∀ c rest, core = c :: rest → isBlank c = false
  last : ∀ init c, core = init ++ [c] → isBlank c = false

lemma trim_eq (cs : List Char) : trim cs = (cs.dropWhile isBlank).rdropWhile isBlank := rfl

/-- Blanks behind something that does not end with one. -/
lemma rdropWhile_append {after : List Char} (blank : ∀ c ∈ after, isBlank c = true)
    (last : ∀ init c, core = init ++ [c] → isBlank c = false) :
    (core ++ after).rdropWhile isBlank = core := by
  induction after using List.reverseRecOn with
  | nil =>
    rw [List.append_nil, List.rdropWhile_eq_self_iff]
    intro nonempty
    simp [last _ _ (List.dropLast_append_getLast nonempty).symm]
  | append_singleton after c ih =>
    rw [← List.append_assoc, List.rdropWhile_concat_pos _ _ _ (blank c (by simp)),
      ih fun d hd => blank d (by simp [hd])]

lemma Core.trim_eq (h : Core cs core) : trim cs = core := by
  obtain ⟨before, after, rfl, blank, blank'⟩ := h.split
  rw [Text.trim_eq, List.dropWhile_append_of_pos blank]
  cases core with
  | nil =>
    rw [List.nil_append, List.dropWhile_eq_nil_iff.mpr blank']
    rfl
  | cons c rest =>
    have kept : ((c :: rest) ++ after).dropWhile isBlank = (c :: rest) ++ after := by
      simp [h.first c rest rfl]
    rw [kept, rdropWhile_append blank' h.last]

lemma core_trim (cs : List Char) : Core cs (trim cs) where
  split := by
    refine ⟨cs.takeWhile isBlank, (cs.dropWhile isBlank).rtakeWhile isBlank, ?_, ?_, ?_⟩
    · rw [trim_eq, List.rdropWhile_append_rtakeWhile, List.takeWhile_append_dropWhile]
    · exact fun c hc => List.mem_takeWhile_imp hc
    · exact fun c hc => List.mem_rtakeWhile_imp hc
  first := by
    intro c rest h
    rw [trim_eq] at h
    obtain ⟨after, split⟩ := List.rdropWhile_prefix isBlank (l := cs.dropWhile isBlank)
    rw [h, List.cons_append] at split
    have start := List.head?_dropWhile_not isBlank cs
    rw [← split] at start
    simpa using start
  last := by
    intro init c h
    have nonempty : (cs.dropWhile isBlank).rdropWhile isBlank ≠ [] := by
      rw [← trim_eq, h]
      simp
    have last := List.rdropWhile_last_not isBlank (cs.dropWhile isBlank) nonempty
    simp only [← trim_eq, h, List.getLast_append_singleton] at last
    simpa using last

/-! The grammar of integers. -/

/-- The value of digits in place notation. -/
def placeValue (ds : List Char) : Nat :=
  Nat.ofDigits 10 (ds.reverse.map fun c => c.toNat - '0'.toNat)

/-- The text is written for the integer. -/
inductive Denotes : List Char → ℤ → Prop
  | plain {ds : List Char} (h : Digits ds) : Denotes ds (placeValue ds)
  | plus {ds : List Char} (h : Digits ds) : Denotes ('+' :: ds) (placeValue ds)
  | minus {ds : List Char} (h : Digits ds) : Denotes ('-' :: ds) (-placeValue ds)

/-- The text, less the blanks around it, is written for the integer. -/
def Spells (s : String) (n : ℤ) : Prop := ∃ core, Core s.toList core ∧ Denotes core n

lemma digitsValue_eq (ds : List Char) : digitsValue ds = placeValue ds := by
  induction ds using List.reverseRecOn with
  | nil => rfl
  | append_singleton ds c ih =>
    simp only [digitsValue, placeValue] at ih ⊢
    rw [List.foldl_append, ih]
    simp [Nat.ofDigits_cons]
    omega

lemma natural?_eq_some {k : Nat} : natural? ds = some k ↔ Digits ds ∧ placeValue ds = k := by
  have digits : (!ds.isEmpty && ds.all Char.isDigit) = true ↔ Digits ds := by
    rw [Bool.and_eq_true, Bool.not_eq_true', List.isEmpty_eq_false_iff, List.all_eq_true]
    exact ⟨fun h => ⟨h.1, h.2⟩, fun h => ⟨h.nonempty, h.each⟩⟩
  simp only [natural?, digits, digitsValue_eq, Option.ite_none_right_eq_some, Option.some.injEq]

lemma integer?_eq_some : integer? cs = some n ↔ Denotes cs n := by
  constructor
  · intro h
    unfold integer? at h
    split at h
    · obtain ⟨_, magnitude, rfl⟩ := Option.map_eq_some_iff.mp h
      obtain ⟨k, natural, same⟩ := Option.bind_eq_some_iff.mp magnitude
      obtain ⟨digits, rfl⟩ := natural?_eq_some.mp natural
      cases same
      exact .minus digits
    · obtain ⟨k, natural, rfl⟩ := Option.map_eq_some_iff.mp h
      obtain ⟨digits, rfl⟩ := natural?_eq_some.mp natural
      exact .plus digits
    · obtain ⟨k, natural, rfl⟩ := Option.map_eq_some_iff.mp h
      obtain ⟨digits, rfl⟩ := natural?_eq_some.mp natural
      exact .plain digits
  · intro h
    cases h with
    | plus digits | minus digits => simp [integer?, natural?_eq_some.mpr ⟨digits, rfl⟩]
    | plain digits =>
      unfold integer?
      -- The digits do not begin with a sign.
      split
      · exact absurd (digits.each '-' (by simp)) (by decide)
      · exact absurd (digits.each '+' (by simp)) (by decide)
      · simp [natural?_eq_some.mpr ⟨digits, rfl⟩]

lemma spells_iff : Spells s n ↔ integer? (trim s.toList) = some n := by
  rw [integer?_eq_some]
  constructor
  · rintro ⟨core, cut, denotes⟩
    rwa [cut.trim_eq]
  · intro denotes
    exact ⟨_, core_trim s.toList, denotes⟩

end Text

namespace Machine
open Json
variable {m : Machine} {s : String}

lemma storedLimit?_eq_some {n : Int64} :
    storedLimit? (.string s) = some n ↔ Text.Spells s n.toInt := by
  rw [Text.spells_iff, storedLimit?, Text.int64?, Option.bind_eq_some_iff]
  have low := Int64.le_toInt n
  have high := Int64.toInt_lt n
  constructor
  · rintro ⟨i, read, fits⟩
    rw [Option.ite_none_right_eq_some] at fits
    obtain ⟨range, same⟩ := fits
    cases same
    rw [read, Int64.toInt_ofInt_of_le (by omega) (by omega)]
  · intro read
    exact ⟨n.toInt, read, by rw [if_pos (by omega), Int64.ofInt_toInt]⟩

lemma memoryLimit_of_stored {v : Json} {n : Int64} (h : m.limit? = some v)
    (read : storedLimit? v = some n) : m.memoryLimit = if n = 0 then -1 else n := by
  have found : m.attributes.get? limitKey = some v := h
  simp only [memoryLimit, found, Option.bind_some, read]
  rfl

lemma memoryLimit_of_unread {v : Json} (h : m.limit? = some v) (unread : storedLimit? v = none) :
    m.memoryLimit = -1 := by
  have found : m.attributes.get? limitKey = some v := h
  simp only [memoryLimit, found, Option.bind_some, unread]
  rfl

/-- A text in the attribute is read by the grammar of integers. If it spells a word, the limit is
that of the word stored as a number: the word itself, or none for zero. If it spells an integer
beyond the word, or none at all, there is no limit. -/
theorem memoryLimit_text (h : m.limit? = some (.string s)) :
    (∀ n : Int64, Text.Spells s n.toInt → m.memoryLimit = (if n = 0 then -1 else n) ∧
      ∀ m' : Machine, m'.limit? = some (.number (.ofInt64 n)) → m.memoryLimit = m'.memoryLimit) ∧
    (∀ i : ℤ, Text.Spells s i → i < -2 ^ 63 ∨ 2 ^ 63 ≤ i → m.memoryLimit = -1) ∧
    ((∀ n : Int64, ¬Text.Spells s n.toInt) → m.memoryLimit = -1) := by
  have none (other : ∀ n : Int64, ¬Text.Spells s n.toInt) : m.memoryLimit = -1 := by
    refine memoryLimit_of_unread h (Option.eq_none_iff_forall_ne_some.mpr fun n read => ?_)
    exact other n (storedLimit?_eq_some.mp read)
  refine ⟨?word, ?beyond, none⟩
  case word =>
    intro n spelled
    have value := memoryLimit_of_stored h (storedLimit?_eq_some.mpr spelled)
    refine ⟨value, fun m' stored => ?_⟩
    rw [value, memoryLimit_ofInt64 stored]
  case beyond =>
    intro i spelled outside
    refine none fun n word => ?_
    have same : n.toInt = i :=
      Option.some.inj ((Text.spells_iff.mp word).symm.trans (Text.spells_iff.mp spelled))
    have low := Int64.le_toInt n
    have high := Int64.toInt_lt n
    omega

/-- Blanks, a sign and zeros in front, the least word, the integer next above the greatest one, and
a fraction. -/
theorem memoryLimit_text_bounds :
    let limited (s : String) : Machine := { Machine.new "web" ⟨.dockerImage, .absent, .empty⟩ with
      attributes := Dict.empty.insert limitKey (.string s) }
    (limited "\u2003+007\n").memoryLimit = 7 ∧
      (limited "-9223372036854775808").memoryLimit = Int64.minValue ∧
      (limited "9223372036854775808").memoryLimit = -1 ∧ (limited "1.0").memoryLimit = -1 := by
  intro limited
  have spelled (s : String) (n : ℤ) (h : Text.integer? (Text.trim s.toList) = some n) :
      Text.Spells s n := Text.spells_iff.mpr h
  have word (s : String) (n : Int64) (h : Text.Spells s n.toInt) :
      (limited s).memoryLimit = if n = 0 then -1 else n :=
    ((memoryLimit_text (m := limited s) rfl).1 n h).1
  refine ⟨?_, ?_, ?_, ?_⟩
  · exact word _ 7 (spelled _ _ (by decide +kernel))
  · exact word _ Int64.minValue (spelled _ _ (by decide +kernel))
  · exact (memoryLimit_text rfl).2.1 (2 ^ 63) (spelled _ _ (by decide +kernel)) (by omega)
  · refine (memoryLimit_text rfl).2.2 fun n spelled => ?_
    have unread : Text.integer? (Text.trim "1.0".toList) = none := by decide +kernel
    rw [Text.spells_iff, unread] at spelled
    cases spelled

end Machine
end Workspace
