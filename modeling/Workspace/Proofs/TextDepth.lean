import Workspace.Proofs.WrittenText

/-! How deep a text is nested, counted in the text alone: the most lists and objects that are
open at once, where a bracket in a string does not count. The text of a layout is nested as
deep as the layout, whatever the style, so what is known of the one is known of the other. -/
namespace Workspace.Json

/-- Where in a text: between its strings, in one of them, or in one behind a backslash. -/
inductive Spot where
  | between | quoted | escaped

/-- Where a scan of a text is, the brackets that are open there, and the most that were. -/
structure Scan where
  spot : Spot
  now : Nat
  most : Nat

namespace Scan

def opens (c : Char) : Bool := c == '[' || c == '{'

def closes (c : Char) : Bool := c == ']' || c == '}'

def step (s : Scan) (c : Char) : Scan :=
  match s.spot with
  | .escaped => { s with spot := .quoted }
  | .quoted =>
    if c = '"' then { s with spot := .between }
    else if c = '\\' then { s with spot := .escaped }
    else s
  | .between =>
    if c = '"' then { s with spot := .quoted }
    else if opens c then { s with now := s.now + 1, most := max s.most (s.now + 1) }
    else if closes c then { s with now := s.now - 1 }
    else s

end Scan

/-- How deep a text is nested. -/
def nesting (text : List Char) : Nat := (text.foldl Scan.step ⟨.between, 0, 0⟩).most

example : nesting "[\x7b\"a]\\\"[\": []\x7d]".toList = 3 := by decide +kernel

/-! Parts of a text in which every bracket that is opened is closed. -/

/-- From where it is, a scan of the text goes up by so much and comes back. -/
def Rises (text : List Char) (height : Nat) : Prop :=
  ∀ now most, now ≤ most →
    text.foldl Scan.step ⟨.between, now, most⟩ = ⟨.between, now, max most (now + height)⟩

section Parts
variable {cs ds : List Char} {h k : Nat}

lemma Rises.nesting_eq (rises : Rises cs h) : nesting cs = h := by
  rw [nesting, rises 0 0 (le_refl 0)]
  simp

lemma rises_nil : Rises [] 0 := by
  intro now most bound
  simp [bound]

lemma Rises.append (first : Rises cs h) (second : Rises ds k) :
    Rises (cs ++ ds) (max h k) := by
  intro now most bound
  rw [List.foldl_append, first now most bound, second now _ (by omega)]
  congr 1
  omega

/-- Neither a quote nor a bracket. -/
def plain (c : Char) : Bool := c != '"' && !Scan.opens c && !Scan.closes c

lemma rises_plain (h : cs.all plain = true) : Rises cs 0 := by
  induction cs with
  | nil => exact rises_nil
  | cons c cs ih =>
    rw [List.all_cons, Bool.and_eq_true] at h
    have flat := h.1
    simp only [plain, Bool.and_eq_true, bne_iff_ne, Bool.not_eq_true'] at flat
    intro now most bound
    have step : Scan.step ⟨.between, now, most⟩ c = ⟨.between, now, most⟩ := by
      simp [Scan.step, flat]
    rw [List.foldl_cons, step, ih h.2 now most bound]

lemma Rises.brackets {opening closing : Char} (opens : Scan.opens opening = true)
    (closes : Scan.closes closing = true) (inside : Rises cs h) :
    Rises (opening :: (cs ++ [closing])) (h + 1) := by
  intro now most bound
  have first : Scan.step ⟨.between, now, most⟩ opening =
      ⟨.between, now + 1, max most (now + 1)⟩ := by
    have quote : opening ≠ '"' := by rintro rfl; cases opens
    simp [Scan.step, quote, opens]
  have last (most : Nat) : Scan.step ⟨.between, now + 1, most⟩ closing =
      ⟨.between, now, most⟩ := by
    have quote : closing ≠ '"' := by rintro rfl; cases closes
    have bracket : Scan.opens closing = false := by
      simp only [Scan.closes, Bool.or_eq_true, beq_iff_eq] at closes
      rcases closes with rfl | rfl <;> rfl
    simp [Scan.step, quote, bracket, closes]
  rw [List.foldl_cons, first, List.foldl_append, inside _ _ (by omega)]
  rw [List.foldl_cons, last, List.foldl_nil]
  congr 1
  omega

end Parts

/-! Strings and numbers. -/

lemma foldl_escape (c : Char) (now most : Nat) :
    (escape c).foldl Scan.step ⟨.quoted, now, most⟩ = ⟨.quoted, now, most⟩ := by
  have hex (n : Nat) (h : n < 16) : hexDigit n ≠ '"' ∧ hexDigit n ≠ '\\' := by
    revert n
    decide
  unfold escape
  split_ifs with quote backslash
  iterate 7 rfl
  · have high := hex (c.toNat / 16) (by omega)
    have low := hex (c.toNat % 16) (by omega)
    simp [Scan.step, high, low]
  · simp [Scan.step, quote, backslash]

/-- Whatever stands in a string does not count. -/
lemma rises_quote (s : String) : Rises (quote s) 0 := by
  intro now most bound
  have inside (cs : List Char) : (cs.flatMap escape).foldl Scan.step ⟨.quoted, now, most⟩ =
      ⟨.quoted, now, most⟩ := by
    induction cs with
    | nil => rfl
    | cons c cs ih => rw [List.flatMap_cons, List.foldl_append, foldl_escape, ih]
  have first : Scan.step ⟨.between, now, most⟩ '"' = ⟨.quoted, now, most⟩ := rfl
  rw [quote, List.foldl_cons, first, List.foldl_append, inside]
  simp [Scan.step, bound]

lemma plain_of_isDigit {c : Char} (h : c.isDigit = true) : plain c = true := by
  have other (d : Char) (hd : d.isDigit = false) : c ≠ d := by
    rintro rfl
    rw [h] at hd
    cases hd
  simp [plain, Scan.opens, Scan.closes, other]

lemma Digits.plain {ds : List Char} (h : Digits ds) : ds.all plain = true :=
  List.all_eq_true.mpr fun c hc => plain_of_isDigit (h.each c hc)

lemma Literal.Proper.plain {l : Literal} (h : l.Proper) : l.text.all plain = true := by
  have sign : (if l.minus then ['-'] else []).all Json.plain = true := by
    cases l.minus <;> rfl
  have fraction : (fractionText l.fraction).all Json.plain = true := by
    cases hf : l.fraction with
    | none => rfl
    | some ds => exact (h.fraction ds hf).plain
  have exponent : (exponentText l.exponent).all Json.plain = true := by
    cases he : l.exponent with
    | none => rfl
    | some e =>
      obtain ⟨minus, ds⟩ := e
      have digits := (h.exponent minus ds he).plain
      cases minus <;> exact digits
  simp only [text, List.all_append, sign, h.whole.plain, fraction, exponent, Bool.and_self]

lemma rises_number (n : Number) : Rises n.text 0 := by
  obtain ⟨l, proper, _, spelling, _⟩ := n.exists_literal
  rw [← spelling]
  exact rises_plain proper.plain

/-! Lists and objects. -/

lemma Blank.rises {bs : List Char} (blank : Blank bs) : Rises bs 0 := by
  refine rises_plain (List.all_eq_true.mpr fun c hc => ?_)
  have space := blank c hc
  simp only [isSpace, Bool.or_eq_true, beq_iff_eq] at space
  rcases space with ((rfl | rfl) | rfl) | rfl <;> rfl

section Brackets
variable {style : Style} {depth h k : Nat} {part : List Char} {parts : List (List Char)}

lemma Style.Spaced.rises_colon (spaced : style.Spaced) : Rises style.colon 0 := by
  obtain ⟨bs, colon, blank⟩ := spaced.colon
  rw [colon]
  have mark : Rises [':'] 0 := rises_plain rfl
  exact mark.append blank.rises

lemma Rises.lines_cons (spaced : style.Spaced) (first : Rises part h)
    (further : Rises (style.lines depth parts) k) :
    Rises (style.lines depth (part :: parts)) (max h k) := by
  have line := (spaced.lineBreak (depth + 1)).rises.append first
  rw [Nat.zero_max] at line
  cases parts with
  | nil =>
    obtain rfl : 0 = k := rises_nil.nesting_eq.symm.trans further.nesting_eq
    simpa [Style.lines] using line
  | cons next parts =>
    have comma : Rises [','] 0 := rises_plain rfl
    simpa [Style.lines] using (line.append comma).append further

lemma Rises.enclose (spaced : style.Spaced) {opening closing : Char}
    (opens : Scan.opens opening = true) (closes : Scan.closes closing = true)
    (inside : Rises (style.lines depth parts) h) :
    Rises (style.enclose depth opening closing parts) (h + 1) := by
  cases parts with
  | nil => exact inside.brackets opens closes
  | cons part parts =>
    have inside := inside.append (spaced.lineBreak depth).rises
    rw [Nat.max_zero] at inside
    simpa [Style.enclose] using inside.brackets opens closes

lemma Rises.member (spaced : style.Spaced) (key : String) (value : Rises part h) :
    Rises (style.member key part) h := by
  simpa [Style.member] using ((rises_quote key).append spaced.rises_colon).append value

end Brackets

/-- The text rises as high as the room that is needed for what it spells. -/
def Measures (text : List Char) (fits : Nat → Prop) : Prop :=
  ∃ height, Rises text height ∧ ∀ room, fits room ↔ height ≤ room

section Measures
variable {style : Style} {depth : Nat} {text : List Char} {parts : List (List Char)}
  {fits first further : Nat → Prop}

lemma Rises.measures (rises : Rises text 0) (flat : ∀ room, fits room) : Measures text fits :=
  ⟨0, rises, fun room => by simp [flat room]⟩

lemma Measures.lines_cons (spaced : style.Spaced) (one : Measures text first)
    (others : Measures (style.lines depth parts) further)
    (both : ∀ room, fits room ↔ first room ∧ further room) :
    Measures (style.lines depth (text :: parts)) fits := by
  obtain ⟨h, rises, needs⟩ := one
  obtain ⟨k, rises', needs'⟩ := others
  refine ⟨max h k, rises.lines_cons spaced rises', fun room => ?_⟩
  rw [both, needs, needs', Nat.max_le]

/-- Brackets need a level of their own. -/
lemma Measures.enclose (spaced : style.Spaced) {opening closing : Char}
    (opens : Scan.opens opening = true) (closes : Scan.closes closing = true)
    (inside : Measures (style.lines depth parts) first) (none : ¬fits 0)
    (more : ∀ room, fits (room + 1) ↔ first room) :
    Measures (style.enclose depth opening closing parts) fits := by
  obtain ⟨h, rises, needs⟩ := inside
  refine ⟨h + 1, rises.enclose spaced opens closes, fun room => ?_⟩
  cases room with
  | zero => simp [none]
  | succ room => rw [more, needs, Nat.add_le_add_iff_right]

lemma Measures.member (spaced : style.Spaced) (key : String) (value : Measures text fits) :
    Measures (style.member key text) fits := by
  obtain ⟨h, rises, needs⟩ := value
  exact ⟨h, rises.member spaced key, needs⟩

lemma measures_lines_nil (flat : ∀ room, fits room) : Measures (style.lines depth []) fits :=
  rises_nil.measures flat

end Measures

section Texts
variable {style : Style}

lemma measures_flat {v : Json} {depth : Nat} (rises : Rises (v.write style depth) 0)
    (noList : ∀ items, v ≠ .list items) (noObject : ∀ m, v ≠ .object m) :
    Measures (v.write style depth) fun room => v.Within room :=
  rises.measures fun room => within_flat room noList noObject

mutual

lemma measures_write (spaced : style.Spaced) (depth : Nat) :
    (v : Json) → Measures (v.write style depth) fun room => v.Within room
  | .null => measures_flat (rises_plain rfl) (by simp) (by simp)
  | .bool true => measures_flat (rises_plain rfl) (by simp) (by simp)
  | .bool false => measures_flat (rises_plain rfl) (by simp) (by simp)
  | .number n => measures_flat (rises_number n) (by simp) (by simp)
  | .string s => measures_flat (rises_quote s) (by simp) (by simp)
  | .list items => (measures_writeItems spaced depth items).enclose spaced rfl rfl id
      fun _ => Iff.rfl
  | .object m => (measures_writeMembers spaced depth m).enclose spaced rfl rfl id
      fun _ => Iff.rfl

lemma measures_writeItems (spaced : style.Spaced) (depth : Nat) : (items : List Json) →
    Measures (style.lines depth (writeItems style (depth + 1) items))
      fun room => ∀ v ∈ items, v.Within room
  | [] => measures_lines_nil (by simp)
  | v :: rest => (measures_write spaced (depth + 1) v).lines_cons spaced
      (measures_writeItems spaced depth rest) fun _ => List.forall_mem_cons

lemma measures_writeMembers (spaced : style.Spaced) (depth : Nat) {lo : Option String} :
    (m : Chain Json lo) → Measures (style.lines depth (writeMembers style (depth + 1) m))
      fun room => ∀ k v, m.get? k = some v → v.Within room
  | .nil => measures_lines_nil (by simp [Chain.get?])
  | .cons key _ v rest => ((measures_write spaced (depth + 1) v).member spaced key).lines_cons
      spaced (measures_writeMembers spaced depth rest) fun _ => Chain.forall_get?_cons

end

namespace Layout

mutual

lemma measures_write (spaced : style.Spaced) (depth : Nat) :
    (l : Layout) → Measures (l.write style depth) fun room => l.Within room
  | .value v => by
    simpa only [within_value_iff] using! Json.measures_write spaced depth v
  | .list items => (measures_writeItems spaced depth items).enclose spaced rfl rfl id
      fun _ => Iff.rfl
  | .record members => (measures_writeMembers spaced depth members).enclose spaced rfl rfl id
      fun _ => Iff.rfl

lemma measures_writeItems (spaced : style.Spaced) (depth : Nat) : (items : List Layout) →
    Measures (style.lines depth (writeItems style (depth + 1) items))
      fun room => ∀ l ∈ items, l.Within room
  | [] => measures_lines_nil (by simp)
  | l :: rest => (measures_write spaced (depth + 1) l).lines_cons spaced
      (measures_writeItems spaced depth rest) fun _ => List.forall_mem_cons

lemma measures_writeMembers (spaced : style.Spaced) (depth : Nat) :
    (members : List (String × Layout)) →
      Measures (style.lines depth (writeMembers style (depth + 1) members))
        fun room => ∀ m ∈ members, m.2.Within room
  | [] => measures_lines_nil (by simp)
  | (key, l) :: rest => ((measures_write spaced (depth + 1) l).member spaced key).lines_cons
      spaced (measures_writeMembers spaced depth rest) fun _ => List.forall_mem_cons

end

/-- A layout fits where its text does. -/
theorem within_iff_nesting (spaced : style.Spaced) (depth : Nat) {l : Layout} {room : Nat} :
    l.Within room ↔ nesting (l.write style depth) ≤ room := by
  obtain ⟨height, rises, needs⟩ := l.measures_write spaced depth
  rw [rises.nesting_eq]
  exact needs room

end Layout

end Texts

end Workspace.Json
