import Workspace.Proofs.Brackets
import Workspace.Proofs.Nesting

/-! What is written is read again. The text of a layout, in a style that puts nothing but
blanks between the parts, spells out a layout with the same value, in which the values that
stood for lists and objects are opened, and which repeats a key only where the first one does.
It needs as much room as its levels of nesting. -/
namespace Workspace.Json

lemma rereads_scalar {room : Nat} {text : List Char} {v : Json}
    (start : ∃ c cs, text = c :: cs ∧ isSpace c = false ∧ c ≠ '{' ∧ c ≠ '[')
    (read : ∀ rest, EndsNumber rest → readScalar (text ++ rest) = .ok (v, rest)) :
    Rereads room text (.value v) := by
  intro rest ends
  obtain ⟨c, cs, rfl, space, brace, bracket⟩ := start
  have skip : skipSpace (c :: cs ++ rest) = c :: cs ++ rest := skipSpace_cons space _
  have flat : StartsFlat (c :: cs ++ rest) := by
    intro inner
    rw [skip]
    simp [brace, bracket]
  rw [Layout.read_flat_eq_ok flat, skip]
  exact ⟨v, rfl, read rest ends⟩

/-- Nothing but a number begins as one. -/
lemma number_start {c : Char} (first : c = '-' ∨ c.isDigit = true) :
    isSpace c = false ∧ c ≠ '{' ∧ c ≠ '[' ∧ c ≠ ']' ∧ c ≠ '"' ∧ c ≠ 'n' ∧ c ≠ 't' ∧ c ≠ 'f' := by
  have other (d : Char) (minus : d ≠ '-') (digit : d.isDigit = false) : c ≠ d := by
    rintro rfl
    simp [minus, digit] at first
  simp [isSpace, other]

lemma readScalar_number {c : Char} (first : c = '-' ∨ c.isDigit = true) (cs : List Char) :
    readScalar (c :: cs) = (do
      let (n, rest) ← readNumber (c :: cs)
      .ok (.number n, rest)) := by
  simp [readScalar, number_start first, first]

lemma rereads_number (room : Nat) (n : Number) : Rereads room n.text (.value (.number n)) := by
  obtain ⟨c, cs, text, first⟩ := text_start n
  have others := number_start first
  refine rereads_scalar ⟨c, cs, text, others.1, others.2.1, others.2.2.1⟩ fun rest ends => ?_
  have read := readNumber_text n ends
  rw [text, List.cons_append] at read ⊢
  rw [readScalar_number first, read]
  rfl

lemma rereads_string (room : Nat) (s : String) :
    Rereads room (quote s) (.value (.string s)) := by
  refine rereads_scalar ⟨'"', _, rfl, by decide, by decide, by decide⟩ fun rest _ => ?_
  have read := readString_quote s rest
  simp [quote, readScalar, read, bind, Except.bind]

lemma writeItems_eq (style : Style) (depth : Nat) (items : List Json) :
    writeItems style depth items = items.map (write style depth) := by
  induction items with
  | nil => rfl
  | cons v rest ih => simp [writeItems, ih]

lemma writeMembers_eq (style : Style) (depth : Nat) {lo : Option String} (m : Chain Json lo) :
    writeMembers style depth m =
      m.toList.map fun e => style.member e.1 (write style depth e.2) := by
  induction m with
  | nil => rfl
  | cons key above v rest ih => simp [writeMembers, Chain.toList, ih]

lemma rereads_flat {style : Style} {depth : Nat} (room : Nat) {v : Json}
    (noList : ∀ items, v ≠ .list items) (noObject : ∀ m, v ≠ .object m) :
    Rereads room (v.write style depth) (.value v) := by
  have word (c : Char) (cs : List Char) (v : Json) (flat : isSpace c = false ∧ c ≠ '{' ∧ c ≠ '[')
      (read : ∀ rest, readScalar (c :: cs ++ rest) = .ok (v, rest)) :
      Rereads room (c :: cs) (.value v) :=
    rereads_scalar ⟨c, cs, rfl, flat⟩ fun rest _ => read rest
  cases v with
  | null => exact word _ _ _ (by decide) fun _ => rfl
  | bool b =>
    cases b
    · exact word _ _ _ (by decide) fun _ => rfl
    · exact word _ _ _ (by decide) fun _ => rfl
  | number n => exact rereads_number room n
  | string s => exact rereads_string room s
  | list items => exact absurd rfl (noList items)
  | object m => exact absurd rfl (noObject m)

namespace Layout
variable {style : Style} {room : Nat} {l : Layout}

lemma writeItems_eq (depth : Nat) (items : List Layout) :
    writeItems style depth items = items.map (write style depth) := by
  induction items with
  | nil => rfl
  | cons l rest ih => simp [writeItems, ih]

lemma writeMembers_eq (depth : Nat) (members : List (String × Layout)) :
    writeMembers style depth members =
      members.map fun m => style.member m.1 (m.2.write style depth) := by
  induction members with
  | nil => rfl
  | cons m rest ih => simp [writeMembers, ih]

/-- A layout with the lists and objects in it at the outside opened. -/
def opened : Layout → Layout
  | .value (.list items) => .list (items.map .value)
  | .value (.object m) => .record (members m)
  | l => l

lemma opened_cases (l : Layout) :
    (∃ v, l.opened = .value v ∧ (∀ items, v ≠ .list items) ∧ ∀ m, v ≠ .object m) ∨
      (∃ items, l.opened = .list items) ∨ ∃ members, l.opened = .record members := by
  cases l with
  | value v =>
    cases v with
    | list items => exact Or.inr (Or.inl ⟨_, rfl⟩)
    | object m => exact Or.inr (Or.inr ⟨_, rfl⟩)
    | _ => exact Or.inl ⟨_, rfl, by simp, by simp⟩
  | list items => exact Or.inr (Or.inl ⟨_, rfl⟩)
  | record members => exact Or.inr (Or.inr ⟨_, rfl⟩)

lemma write_opened (style : Style) (depth : Nat) (l : Layout) :
    l.opened.write style depth = l.write style depth := by
  cases l with
  | value v =>
    cases v with
    | list items => simp [opened, write, Json.write, writeItems_eq, Json.writeItems_eq,
        Function.comp_def]
    | object m => simp [opened, write, Json.write, writeMembers_eq, Json.writeMembers_eq, members,
        Function.comp_def]
    | _ => rfl
  | _ => rfl

lemma toJson_opened (l : Layout) : l.opened.toJson = l.toJson := by
  cases l with
  | value v =>
    cases v with
    | list items => simp [opened, toJson, itemValues_eq, Function.comp_def]
    | object m => exact toJson_record _ m (held_members m)
    | _ => rfl
  | _ => rfl

lemma Within.opened (h : l.Within room) : l.opened.Within room := by
  cases l with
  | value v =>
    rw [within_value_iff] at h
    cases v with
    | list items =>
      cases room with
      | zero => exact h
      | succ room => exact List.forall_mem_map.mpr fun x hx => within_value_iff.mpr (h x hx)
    | object m =>
      cases room with
      | zero => exact h
      | succ room =>
        refine List.forall_mem_map.mpr fun e he => within_value_iff.mpr ?_
        exact h e.1 e.2 ((Chain.mem_toList m e.1 e.2).mp he)
    | _ => exact within_value_iff.mpr h
  | _ => exact h

lemma KeysDistinct.opened (h : l.KeysDistinct) : l.opened.KeysDistinct := by
  cases l with
  | value v =>
    cases v with
    | list items => exact .list (List.forall_mem_map.mpr fun x _ => .value x)
    | object m =>
      refine .record ?_ (List.forall_mem_map.mpr fun e _ => .value e.2)
      rw [members, List.map_map]
      exact m.nodup_keys
    | _ => exact h
  | _ => exact h

/-- A layout that is read from the text of another stands for the same value, and repeats a key
only where the other does. -/
def Renders (style : Style) (room depth : Nat) (l l' : Layout) : Prop :=
  Rereads room (l.write style depth) l' ∧ l'.toJson = l.toJson ∧ (l.KeysDistinct → l'.KeysDistinct)

section Parts
variable {depth : Nat} {again : Layout → Layout}

lemma renders_list (spaced : style.Spaced) {items : List Layout}
    (each : ∀ l ∈ items, Renders style room (depth + 1) l (again l)) :
    Renders style (room + 1) depth (.list items) (.list (items.map again)) := by
  refine ⟨?_, ?_, ?_⟩
  · rw [write, writeItems_eq]
    refine rereads_list spaced ?_
    rw [List.forall₂_map_left_iff, List.forall₂_map_right_iff, List.forall₂_same]
    exact fun l hl => (each l hl).1
  · rw [toJson, toJson, itemValues_eq, itemValues_eq, List.map_map]
    congr 1
    exact List.map_congr_left fun l hl => (each l hl).2.1
  · rintro (_ | distinct)
    exact .list (List.forall_mem_map.mpr fun l hl => (each l hl).2.2 (distinct l hl))

lemma renders_record (spaced : style.Spaced) {members : List (String × Layout)}
    (each : ∀ m ∈ members, Renders style room (depth + 1) m.2 (again m.2)) :
    Renders style (room + 1) depth (.record members)
      (.record (members.map fun m => (m.1, again m.2))) := by
  refine ⟨?_, ?_, ?_⟩
  · rw [write, writeMembers_eq]
    refine rereads_record spaced ?_
    rw [List.forall₂_map_left_iff, List.forall₂_map_right_iff, List.forall₂_same]
    exact fun m hm => ⟨_, rfl, (each m hm).1⟩
  · rw [toJson, toJson, memberValues_eq, memberValues_eq, List.map_map]
    congr 1
    exact List.map_congr_left fun m hm => congrArg (m.1, ·) (each m hm).2.1
  · rintro (_ | _ | ⟨keys, distinct⟩)
    refine .record (by rw [List.map_map]; exact keys) ?_
    exact List.forall_mem_map.mpr fun m hm => (each m hm).2.2 (distinct m hm)

end Parts

/-- A layout is read from its text, with the values in it taken apart. -/
theorem exists_rereads (spaced : style.Spaced) (depth : Nat) (h : l.Within room) :
    ∃ l', Rereads room (l.write style depth) l' ∧ l'.toJson = l.toJson ∧
      (l.KeysDistinct → l'.KeysDistinct) := by
  induction room using Nat.strongRecOn generalizing l depth with
  | ind room ih =>
    have within := h.opened
    suffices opened : ∃ l', Renders style room depth l.opened l' by
      obtain ⟨l', reads, value, distinct⟩ := opened
      rw [write_opened] at reads
      exact ⟨l', reads, value.trans l.toJson_opened, fun h => distinct h.opened⟩
    rcases l.opened_cases with ⟨v, same, noList, noObject⟩ | ⟨items, same⟩ | ⟨members, same⟩
    all_goals rw [same] at within ⊢
    · exact ⟨.value v, rereads_flat room noList noObject, rfl, id⟩
    -- What is in brackets has less room.
    all_goals
      cases room with
      | zero => exact absurd within id
      | succ room => ?_
      have : Nonempty Layout := ⟨.value .null⟩
      choose! again each using fun (l : Layout) (h : l.Within room) =>
        ih room (Nat.lt_succ_self room) (depth + 1) h
    · exact ⟨_, renders_list spaced fun l hl => each l (within l hl)⟩
    · exact ⟨_, renders_record spaced fun m hm => each m.2 (within m hm)⟩

end Layout

/-! Whole texts. -/

/-- A layout that is not nested too deep is read from its text, blanks behind it or not. -/
theorem Layout.exists_parse {style : Style} (spaced : style.Spaced) {l : Layout}
    (h : l.Within nestingLimit) {bs : List Char} (blank : Blank bs) :
    ∃ l', Layout.parse (l.write style 0 ++ bs) = .ok l' ∧ l'.toJson = l.toJson ∧
      (l.KeysDistinct → l'.KeysDistinct) := by
  obtain ⟨l', reads, value, distinct⟩ := Layout.exists_rereads spaced 0 h
  have done : skipSpace bs = [] := by
    rw [← List.append_nil bs, skipSpace_append blank]
    rfl
  refine ⟨l', ?_, value, distinct⟩
  rw [Layout.parse, reads bs (endsNumber_blank blank)]
  simp [done, bind, Except.bind]

end Workspace.Json
