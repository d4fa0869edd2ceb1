import Mathlib.Data.List.DropRight
import Workspace.Json.Layout
import Workspace.Proofs.NumberText
import Workspace.Proofs.Outline
import Workspace.Proofs.StringText
import Workspace.Proofs.TextReading

/-! Lists and objects as they are written are read part by part. Between the parts stand a
comma, the colon of a member, and blanks, whatever the style; a part that is read as a
layout when anything follows is read so before the next one and before the bracket. -/
namespace Workspace.Json

/-! Blanks. -/

/-- Nothing but blanks. -/
def Blank (cs : List Char) : Prop := ∀ c ∈ cs, isSpace c = true

section Blanks
variable {bs cs rest : List Char} {room : Nat}

lemma skipSpace_append (h : Blank bs) (cs : List Char) : skipSpace (bs ++ cs) = skipSpace cs :=
  List.dropWhile_append_of_pos h

lemma skipSpace_cons {c : Char} (h : isSpace c = false) (cs : List Char) :
    skipSpace (c :: cs) = c :: cs := by
  simp [skipSpace, h]

lemma skipSpace_skipSpace (cs : List Char) : skipSpace (skipSpace cs) = skipSpace cs :=
  List.dropWhile_idempotent _ cs

namespace Layout

lemma read_congr (h : skipSpace cs = skipSpace rest) : read room cs = read room rest := by
  unfold read
  rw [h]

/-- What can be read does not begin with a closing bracket. -/
lemma start_of_read {l : Layout} (h : read room cs = .ok (l, rest)) :
    ∃ c cs', skipSpace cs = c :: cs' ∧ c ≠ ']' := by
  rcases starts_cases cs with ⟨inner, start⟩ | ⟨inner, start⟩ | start
  · exact ⟨_, _, start, by decide⟩
  · exact ⟨_, _, start, by decide⟩
  · obtain ⟨v, _, scalar⟩ := (read_flat_eq_ok start).mp h
    cases hs : skipSpace cs with
    | nil =>
      rw [hs] at scalar
      cases scalar
    | cons c cs' =>
      refine ⟨c, cs', rfl, ?_⟩
      rintro rfl
      rw [hs] at scalar
      cases scalar

end Layout

end Blanks

/-- The style puts nothing but blanks, and the colon, between the parts. -/
structure Style.Spaced (style : Style) : Prop where
  lineBreak : ∀ depth, Blank (style.lineBreak depth)
  colon : ∃ bs, style.colon = ':' :: bs ∧ Blank bs

lemma spaced_compact : Style.compact.Spaced where
  lineBreak _ := by simp [Style.compact, Blank]
  colon := ⟨[], rfl, by simp [Blank]⟩

lemma spaced_indented : Style.indented.Spaced where
  lineBreak depth c hc := by
    rcases List.mem_cons.mp hc with rfl | hc
    · rfl
    · rw [List.eq_of_mem_replicate hc]
      rfl
  colon := ⟨[' '], rfl, by simp [Blank, isSpace]⟩

/-! Parts between brackets. -/

/-- What stands behind a part: the further parts and the closing bracket. -/
def Style.behind (style : Style) (depth : Nat) (closing : Char) (parts : List (List Char))
    (rest : List Char) : List Char :=
  if parts.isEmpty then style.lineBreak depth ++ closing :: rest
  else ',' :: (style.lines depth parts ++ (style.lineBreak depth ++ closing :: rest))

section Parts
variable {style : Style} {depth room : Nat} {closing : Char} {part rest : List Char}
  {parts : List (List Char)}

lemma lines_cons : style.lines depth (part :: parts) ++
      (style.lineBreak depth ++ closing :: rest) =
    style.lineBreak (depth + 1) ++ (part ++ style.behind depth closing parts rest) := by
  cases parts <;> simp [Style.lines, Style.behind]

lemma behind_cons : style.behind depth closing (part :: parts) rest =
    ',' :: (style.lineBreak (depth + 1) ++ (part ++ style.behind depth closing parts rest)) := by
  rw [← lines_cons]
  rfl

lemma enclose_nil (opening : Char) :
    style.enclose depth opening closing [] ++ rest = opening :: closing :: rest := rfl

lemma enclose_cons (opening : Char) :
    style.enclose depth opening closing (part :: parts) ++ rest =
      opening :: (style.lineBreak (depth + 1) ++
        (part ++ style.behind depth closing parts rest)) := by
  rw [← lines_cons]
  simp [Style.enclose]

/-- The closing bracket and the commas make up for the steps. -/
lemma length_behind (style : Style) (depth : Nat) (closing : Char) (parts : List (List Char))
    (rest : List Char) : parts.length < (style.behind depth closing parts rest).length := by
  induction parts with
  | nil => simp [Style.behind]
  | cons part parts ih =>
    rw [behind_cons]
    simp only [List.length_cons, List.length_append]
    omega

/-- Behind a bracket there are steps enough for the first part and those behind it. -/
lemma exists_steps (style : Style) (depth : Nat) (closing : Char) (parts : List (List Char))
    (rest : List Char) (nonempty : part ≠ []) :
    ∃ steps, (style.lineBreak (depth + 1) ++
      (part ++ style.behind depth closing parts rest)).length = steps + 1 ∧
        parts.length < steps := by
  have first := List.length_pos_iff.mpr nonempty
  have further := length_behind style depth closing parts rest
  refine ⟨(style.lineBreak (depth + 1)).length + (part.length - 1) +
    (style.behind depth closing parts rest).length, ?_, by omega⟩
  simp only [List.length_append]
  omega

lemma ends_of_space {c : Char} (h : isSpace c = true) :
    c.isDigit = false ∧ c ≠ '.' ∧ c ≠ 'e' ∧ c ≠ 'E' := by
  simp only [isSpace, Bool.or_eq_true, beq_iff_eq] at h
  rcases h with ((rfl | rfl) | rfl) | rfl <;> decide

lemma blank_nil : Blank [] := by simp [Blank]

lemma blank_newline : Blank ['\n'] := by simp [Blank, isSpace]

lemma endsNumber_blank {bs : List Char} (h : Blank bs) : EndsNumber bs := by
  rintro c cs rfl
  exact ends_of_space (h c (by simp))

lemma endsNumber_behind (spaced : style.Spaced) (depth : Nat) (parts : List (List Char))
    (rest : List Char)
    (bracket : closing.isDigit = false ∧ closing ≠ '.' ∧ closing ≠ 'e' ∧ closing ≠ 'E') :
    EndsNumber (style.behind depth closing parts rest) := by
  intro c cs h
  cases parts with
  | cons part parts =>
    rw [behind_cons] at h
    obtain rfl : ',' = c := (List.cons.inj h).1
    decide
  | nil =>
    simp only [Style.behind, List.isEmpty_nil, if_true] at h
    have blank := spaced.lineBreak depth
    cases hb : style.lineBreak depth with
    | nil =>
      rw [hb] at h
      obtain rfl : closing = c := (List.cons.inj h).1
      exact bracket
    | cons b bs =>
      rw [hb] at h blank
      obtain rfl : b = c := (List.cons.inj h).1
      exact ends_of_space (blank b (by simp))

end Parts

/-- The text is read as the layout, whatever follows. -/
def Rereads (room : Nat) (text : List Char) (l : Layout) : Prop :=
  ∀ rest, EndsNumber rest → Layout.read room (text ++ rest) = .ok (l, rest)

section Lists
variable {style : Style} {depth room steps : Nat} {rest bs cs : List Char}
  {parts : List (List Char)} {items : List Layout}

lemma Rereads.nonempty {text : List Char} {l : Layout} (h : Rereads room text l) : text ≠ [] := by
  rintro rfl
  obtain ⟨c, cs, start, _⟩ := Layout.start_of_read (h [] endsNumber_nil)
  cases start

lemma nextItem_end (first : Bool) (blank : Blank bs) (rest : List Char) :
    nextItem first (bs ++ ']' :: rest) = .ok (false, rest) := by
  rw [nextItem, skipSpace_append blank, skipSpace_cons (by decide)]
  rfl

lemma nextItem_first (blank : Blank bs) (start : ∃ c cs', skipSpace cs = c :: cs' ∧ c ≠ ']') :
    nextItem true (bs ++ cs) = .ok (true, skipSpace cs) := by
  obtain ⟨c, cs', hs, hc⟩ := start
  rw [nextItem, skipSpace_append blank, hs]
  simp [hc]

lemma nextItem_next (blank : Blank bs) (start : ∃ c cs', skipSpace cs = c :: cs' ∧ c ≠ ']') :
    nextItem false (',' :: (bs ++ cs)) = .ok (true, skipSpace cs) := by
  obtain ⟨c, cs', hs, hc⟩ := start
  rw [nextItem, skipSpace_cons (by decide)]
  simp only [skipSpace_append blank, hs]
  split <;> simp_all

/-- The items behind one that was read. -/
lemma readItems_behind (spaced : style.Spaced) (depth : Nat) (rest : List Char)
    (h : List.Forall₂ (Rereads room) parts items) (enough : parts.length < steps) :
    readItems (Layout.read room) steps false (style.behind depth ']' parts rest) =
      .ok (items, rest) := by
  induction h generalizing steps with
  | nil =>
    obtain ⟨steps, rfl⟩ := Nat.exists_eq_add_one_of_ne_zero (Nat.ne_of_gt enough)
    have done := nextItem_end false (spaced.lineBreak depth) rest
    simp [Style.behind, readItems, done, bind, Except.bind]
  | @cons part item parts items read _ ih =>
    obtain ⟨steps, rfl⟩ := Nat.exists_eq_add_one_of_ne_zero (Nat.ne_zero_of_lt enough)
    have enough : parts.length < steps := by simpa using enough
    have ends : EndsNumber (style.behind depth ']' parts rest) :=
      endsNumber_behind spaced depth parts rest (by decide)
    have item := read _ ends
    have next := nextItem_next (spaced.lineBreak (depth + 1)) (Layout.start_of_read item)
    rw [← Layout.read_congr (skipSpace_skipSpace _)] at item
    rw [behind_cons]
    simp [readItems, next, item, ih enough, bind, Except.bind]

/-- A list is read from its parts between brackets. -/
lemma rereads_list (spaced : style.Spaced) (h : List.Forall₂ (Rereads room) parts items) :
    Rereads (room + 1) (style.enclose depth '[' ']' parts) (.list items) := by
  intro rest _
  cases h with
  | nil =>
    have done := nextItem_end true blank_nil rest
    rw [enclose_nil, Layout.read_list (skipSpace_cons (by decide) _)]
    rw [List.nil_append] at done
    simp [readItems, done, bind, Except.bind]
  | @cons part item parts items read reads =>
    have ends : EndsNumber (style.behind depth ']' parts rest) :=
      endsNumber_behind spaced depth parts rest (by decide)
    have first := read _ ends
    have next := nextItem_first (spaced.lineBreak (depth + 1)) (Layout.start_of_read first)
    rw [← Layout.read_congr (skipSpace_skipSpace _)] at first
    obtain ⟨steps, hsteps, enough⟩ := exists_steps style depth ']' parts rest read.nonempty
    have further := readItems_behind spaced depth rest reads enough
    rw [enclose_cons, Layout.read_list (skipSpace_cons (by decide) _), hsteps]
    simp [readItems, next, first, further, bind, Except.bind]

end Lists

/-- The text is that of a member, whose value is read as the layout. -/
def RereadsMember (style : Style) (room : Nat) (text : List Char) (m : String × Layout) : Prop :=
  ∃ value, text = style.member m.1 value ∧ Rereads room value m.2

section Members
variable {style : Style} {depth room steps : Nat} {rest bs cs text : List Char} {key : String}
  {parts : List (List Char)} {m : String × Layout} {seen members : List (String × Layout)}

lemma nextKey_end (first : Bool) (blank : Blank bs) (rest : List Char) :
    nextKey first (bs ++ '}' :: rest) = .ok (none, rest) := by
  rw [nextKey, skipSpace_append blank, skipSpace_cons (by decide)]
  rfl

lemma key_quote (key : String) (cs : List Char) :
    nextKey.key (quote key ++ cs) = .ok (some key, cs) := by
  have read := readString_quote key cs
  simp [quote, nextKey.key, read, bind, Except.bind]

lemma skipSpace_quote (blank : Blank bs) :
    skipSpace (bs ++ (quote key ++ cs)) = quote key ++ cs := by
  rw [skipSpace_append blank]
  exact skipSpace_cons (by decide) _

lemma nextKey_first (blank : Blank bs) (key : String) (cs : List Char) :
    nextKey true (bs ++ (quote key ++ cs)) = .ok (some key, cs) := by
  rw [nextKey, skipSpace_quote blank, ← key_quote key cs]
  rfl

lemma nextKey_next (blank : Blank bs) (key : String) (cs : List Char) :
    nextKey false (',' :: (bs ++ (quote key ++ cs))) = .ok (some key, cs) := by
  rw [nextKey, skipSpace_cons (by decide), ← key_quote key cs]
  simp only [skipSpace_quote blank]
  rfl

lemma member_append (style : Style) (key : String) (value rest : List Char) :
    style.member key value ++ rest = quote key ++ (style.colon ++ (value ++ rest)) := by
  simp [Style.member]

lemma RereadsMember.read (spaced : style.Spaced) (h : RereadsMember style room text m)
    (ends : EndsNumber rest) (seen : List (String × Layout)) : ∃ cs, text ++ rest = quote m.1 ++ cs ∧
      Layout.readMember (Layout.read room) m.1 seen cs = .ok (seen ++ [m], rest) := by
  obtain ⟨value, rfl, reads⟩ := h
  obtain ⟨bs, colon, blank⟩ := spaced.colon
  refine ⟨style.colon ++ (value ++ rest), member_append style m.1 value rest, ?_⟩
  have read := reads rest ends
  rw [← Layout.read_congr (skipSpace_append blank _)] at read
  simp [colon, Layout.readMember, readColon, skipSpace_cons, read, bind, Except.bind, isSpace]

/-- The members behind one that was read. -/
lemma readMembers_behind (spaced : style.Spaced) (depth : Nat) (rest : List Char)
    (h : List.Forall₂ (RereadsMember style room) parts members) (enough : parts.length < steps)
    (seen : List (String × Layout)) :
    readMembers (Layout.readMember (Layout.read room)) steps false seen
      (style.behind depth '}' parts rest) = .ok (seen ++ members, rest) := by
  induction h generalizing steps seen with
  | nil =>
    obtain ⟨steps, rfl⟩ := Nat.exists_eq_add_one_of_ne_zero (Nat.ne_of_gt enough)
    have done := nextKey_end false (spaced.lineBreak depth) rest
    simp [Style.behind, readMembers, done, bind, Except.bind]
  | @cons part m parts members read _ ih =>
    obtain ⟨steps, rfl⟩ := Nat.exists_eq_add_one_of_ne_zero (Nat.ne_zero_of_lt enough)
    have enough : parts.length < steps := by simpa using enough
    have ends : EndsNumber (style.behind depth '}' parts rest) :=
      endsNumber_behind spaced depth parts rest (by decide)
    obtain ⟨cs, text, member⟩ := read.read spaced ends seen
    have next := nextKey_next (spaced.lineBreak (depth + 1)) m.1 cs
    have further := ih enough (seen ++ [m])
    rw [behind_cons, text]
    simp [readMembers, next, member, further, bind, Except.bind]

/-- An object is read from its parts between brackets. -/
lemma rereads_record (spaced : style.Spaced)
    (h : List.Forall₂ (RereadsMember style room) parts members) :
    Rereads (room + 1) (style.enclose depth '{' '}' parts) (.record members) := by
  intro rest _
  cases h with
  | nil =>
    have done := nextKey_end true blank_nil rest
    rw [enclose_nil, Layout.read_object (skipSpace_cons (by decide) _)]
    rw [List.nil_append] at done
    simp [readMembers, done, bind, Except.bind]
  | @cons part m parts members read reads =>
    have ends : EndsNumber (style.behind depth '}' parts rest) :=
      endsNumber_behind spaced depth parts rest (by decide)
    obtain ⟨cs, text, member⟩ := read.read spaced ends []
    have next := nextKey_first (spaced.lineBreak (depth + 1)) m.1 cs
    have nonempty : part ≠ [] := by
      obtain ⟨value, rfl, _⟩ := read
      simp [Style.member, quote]
    obtain ⟨steps, hsteps, enough⟩ := exists_steps style depth '}' parts rest nonempty
    have further := readMembers_behind spaced depth rest reads enough [m]
    rw [enclose_cons, Layout.read_object (skipSpace_cons (by decide) _), hsteps, text]
    simp [readMembers, next, member, further, bind, Except.bind]

end Members

end Workspace.Json
