import Workspace.Proofs.CutBrackets
import Workspace.Proofs.WrittenText

/-! Values and layouts whose text is cut. Nothing but a number is left of a scalar that is read as
one, and where a number fits so does any other. A list or an object is cut off as long as its
bracket is not closed. So the reader of a shape tells the text of a layout that fits it from
what is left of the text; the room for nesting carries the induction, as it does in reading. -/
namespace Workspace.Json

section Scalars
variable {style : Style} {depth room : Nat} {v : Json} {s : Shape} {p cs : List Char} {c : Char}

lemma skipSpace_initial (hp : p <+: c :: cs) (space : isSpace c = false) : skipSpace p = p := by
  rcases List.prefix_cons_iff.mp hp with rfl | ⟨q, rfl, _⟩
  · rfl
  · exact skipSpace_cons space q

/-- What the first character of a text tells. -/
lemma write_start (style : Style) (depth : Nat) (v : Json) :
    ∃ c cs, v.write style depth = c :: cs ∧ isSpace c = false ∧ c ≠ ']' ∧ (c = 'n' → v = .null) ∧
      (c = '{' → ∃ m, v = .object m) ∧ (c = '[' → ∃ items, v = .list items) := by
  cases v with
  | null => exact ⟨'n', _, rfl, by decide, by decide, by simp, by simp, by simp⟩
  | bool b =>
    cases b
    · exact ⟨'f', _, rfl, by decide, by decide, by simp, by simp, by simp⟩
    · exact ⟨'t', _, rfl, by decide, by decide, by simp, by simp, by simp⟩
  | number n =>
    obtain ⟨c, cs, text, first⟩ := text_start n
    have others := number_start first
    exact ⟨c, cs, text, by simp [others]⟩
  | string s => exact ⟨'"', _, rfl, by decide, by decide, by simp, by simp, by simp⟩
  | list items =>
    rw [write, enclose_eq]
    exact ⟨'[', _, rfl, by decide, by decide, by simp, by simp, by simp⟩
  | object m =>
    rw [write, enclose_eq]
    exact ⟨'{', _, rfl, by decide, by decide, by simp, by simp, by simp⟩

/-- What is left of a scalar is cut off, or is a number as the scalar is. -/
lemma readScalar_cut (noList : ∀ items, v ≠ .list items) (noObject : ∀ m, v ≠ .object m)
    (hp : p <+: v.write style depth) (cut : p ≠ v.write style depth) :
    CutOff (readScalar p) ∨
      ∃ n m, v = .number n ∧ readScalar p = .ok (.number m, []) := by
  have word (c : Char) (word : List Char) (hp : p <+: c :: word) (cut : p ≠ c :: word)
      (read : ∀ cs, CutOff (readWord word cs) → CutOff (readScalar (c :: cs))) :
      CutOff (readScalar p) := by
    rcases List.prefix_cons_iff.mp hp with rfl | ⟨q, rfl, hq⟩
    · exact cutOff_error _
    · exact read q (cutOff_readWord hq fun same => cut (by rw [same]))
  cases v with
  | null => exact Or.inl (word _ _ hp cut fun _ h => h.bind _)
  | bool b =>
    cases b
    · exact Or.inl (word _ _ hp cut fun _ h => h.bind _)
    · exact Or.inl (word _ _ hp cut fun _ h => h.bind _)
  | number n =>
    obtain ⟨c, cs, text, first⟩ := text_start n
    have read := runsOut_readNumber hp cut
    rw [write, text] at hp
    rcases List.prefix_cons_iff.mp hp with rfl | ⟨q, rfl, _⟩
    · exact Or.inl (cutOff_error _)
    rw [readScalar_number first]
    rcases read with cutOff | ⟨m, number⟩
    · exact Or.inl (cutOff.bind _)
    · exact Or.inr ⟨n, m, rfl, by rw [number]; rfl⟩
  | string s =>
    rcases quote_cut hp cut with rfl | ⟨q, rfl, read⟩
    · exact Or.inl (cutOff_error _)
    · exact Or.inl (read.bind _)
  | list items => exact absurd rfl (noList items)
  | object m => exact absurd rfl (noObject m)

/-- Where a number fits, anything does. -/
lemma Shape.Extensible.eq_any (ext : s.Extensible) {n : Number} (fits : Fits (.number n) s) :
    s = .any := by
  cases ext with
  | any => rfl
  | string => cases fits_string.mp fits with | intro _ same => cases same
  | list _ => cases fits_list.mp fits with | intro _ same => cases same.1
  | dict _ => cases fits_dict.mp fits with | intro _ same => cases same.1
  | record names _ => cases (fits_extensible names).mp fits with | intro _ same => cases same.1

lemma runsOut_flat (ext : s.Extensible) (fits : Fits v s) (noList : ∀ items, v ≠ .list items)
    (noObject : ∀ m, v ≠ .object m) (hp : p <+: v.write style depth)
    (cut : p ≠ v.write style depth) : RunsOut (s.read room p) := by
  obtain ⟨c, cs, text, space, _, _, brace, bracket⟩ := write_start style depth v
  have skip : skipSpace p = p := skipSpace_initial (text ▸ hp) space
  have flat : StartsFlat p := by
    intro inner
    rw [skip]
    constructor
    all_goals
      rintro rfl
      rw [text] at hp
      obtain ⟨rest, same⟩ := hp
      obtain rfl := (List.cons.inj same).1
    · obtain ⟨m, rfl⟩ := brace rfl
      exact noObject m rfl
    · obtain ⟨items, rfl⟩ := bracket rfl
      exact noList items rfl
  rw [Shape.read_flat flat, skip]
  rcases readScalar_cut noList noObject hp cut with cutOff | ⟨n, m, rfl, read⟩
  · exact (cutOff.bind _).runsOut
  · obtain rfl := ext.eq_any fits
    rw [read]
    exact runsOut_ok _

end Scalars

/-! Readers of values. -/

section Readers
variable {style : Style} {depth room : Nat} {s : Shape} {f : RecordField Shape} {l : Layout}
  {p : List Char}

lemma Shape.read_skipSpace (room : Nat) (s : Shape) (cs : List Char) :
    s.read room (skipSpace cs) = s.read room cs := by
  rw [Shape.read, Shape.read, skipSpace_skipSpace]

lemma Shape.cutOff_read_nil (room : Nat) (s : Shape) : CutOff (s.read room []) := by
  rw [Shape.read_flat fun _ => by simp [skipSpace]]
  exact (cutOff_error _).bind _

lemma readField_skipSpace (room : Nat) (f : RecordField Shape) (cs : List Char) :
    readField (Shape.read room) f (skipSpace cs) = readField (Shape.read room) f cs := by
  simp only [readField, skipSpace_skipSpace, Shape.read_skipSpace]

/-- The reader of a value behind a key that is new. -/
def Shape.valueOf (value : Shape → Reader Json) : Shape → String → Reader Json
  | .record _ _ fields, key =>
    match RecordField.find? fields key with
    | some f => readField value f
    | none => value .any
  | .dict item, _ => value item
  | _, _ => value .any

lemma recordMember_new (value : Shape → Reader Json) (title : String)
    (fields : List (RecordField Shape)) (key : String) (seen : Dict Json) (cs : List Char)
    (new : seen.contains key = false) : recordMember value .extensible fields key seen cs =
      dictMember ((Shape.record title .extensible fields).valueOf value key) key seen cs := by
  simp only [recordMember, Shape.valueOf]
  cases RecordField.find? fields key <;> simp [new]

lemma cutOff_readObject (spaced : style.Spaced) (ext : s.Extensible) {m : Dict Json}
    (fits : Fits (.object m) s) (members : List (String × List Char))
    (each : ∀ m ∈ members, Tells (s.valueOf (Shape.read room) m.1) m.2)
    (distinct : (members.map Prod.fst).Nodup)
    (hp : p <+: style.onward depth true (members.map fun m => style.member m.1 m.2)) :
    CutOff (readObject (Shape.read room) s p) := by
  have absent : ∀ m ∈ members, (Dict.empty : Dict Json).contains m.1 = false := fun _ _ => rfl
  rcases ext.object_cases fits with rfl | ⟨_, rfl, _⟩ | ⟨title, fields, rfl, _⟩
  · exact (cutOff_readMembers spaced (fun _ _ _ _ => rfl) each distinct absent hp _).bind _
  · exact (cutOff_readMembers spaced (fun _ _ _ _ => rfl) each distinct absent hp _).bind _
  · have new := recordMember_new (Shape.read room) title fields
    exact (cutOff_readMembers spaced new each distinct absent hp _).bind _

/-- The shape of the items of a list. -/
def Shape.itemOf : Shape → Shape
  | .list item => item
  | _ => .any

lemma cutOff_readList (spaced : style.Spaced) (ext : s.Extensible) {items : List Json}
    (fits : Fits (.list items) s) {parts : List (List Char)}
    (each : ∀ part ∈ parts, Tells (s.itemOf.read room) part)
    (hp : p <+: style.onward depth true parts) : CutOff (readList (Shape.read room) s p) := by
  rcases ext.list_cases fits with rfl | ⟨_, rfl, _⟩
  · exact (cutOff_readItems spaced each hp _).bind _
  · exact (cutOff_readItems spaced each hp _).bind _

end Readers

/-! Layouts. -/

namespace Layout
variable {style : Style} {depth room : Nat} {s : Shape} {f : RecordField Shape} {l : Layout}
  {p : List Char}

lemma write_start (style : Style) (depth : Nat) (l : Layout) :
    ∃ c cs, l.write style depth = c :: cs ∧ isSpace c = false ∧ c ≠ ']' := by
  cases l with
  | value v =>
    obtain ⟨c, cs, text, space, bracket, _⟩ := Json.write_start style depth v
    exact ⟨c, cs, text, space, bracket⟩
  | list items =>
    rw [write, enclose_eq]
    exact ⟨'[', _, rfl, by decide, by decide⟩
  | record members =>
    rw [write, enclose_eq]
    exact ⟨'{', _, rfl, by decide, by decide⟩

lemma eq_null_of_write {cs : List Char} (h : l.write style depth = 'n' :: cs) :
    l = .value .null := by
  cases l with
  | value v =>
    obtain ⟨c, _, text, _, _, null, _⟩ := Json.write_start style depth v
    obtain rfl : c = 'n' := (List.cons.inj (text.symm.trans h)).1
    rw [null rfl]
  | list items =>
    rw [write, enclose_eq] at h
    simp at h
  | record members =>
    rw [write, enclose_eq] at h
    simp at h

lemma eq_null (h : l.toJson = .null) : l = .value .null := by
  cases l with
  | value v => rw [show v = .null from h]
  | list items => cases h
  | record members => cases h

lemma tells_of_cut (spaced : style.Spaced) (ext : s.Extensible) (within : l.Within room)
    (distinct : l.KeysDistinct) (fits : Fits l.toJson s)
    (cut : ∀ p, p <+: l.write style depth → p ≠ l.write style depth → RunsOut (s.read room p)) :
    Tells (s.read room) (l.write style depth) where
  start := l.write_start style depth
  skips := Shape.read_skipSpace room s
  whole := by
    obtain ⟨l', reads, value, keys⟩ := exists_rereads spaced depth within
    refine ⟨l'.toJson, fun rest ends => ?_⟩
    exact complete_read room s _ rest l' ext (reads rest ends) (keys distinct) (value ▸ fits)
  cut := cut

/-- A null that is not of the shape may stand for the field. -/
lemma tells_field (spaced : style.Spaced) (ext : f.shape.Extensible) (within : l.Within room)
    (distinct : l.KeysDistinct) (fits : FitsField l.toJson f)
    (tells : Fits l.toJson f.shape → Tells (f.shape.read room) (l.write style depth)) :
    Tells (readField (Shape.read room) f) (l.write style depth) where
  start := l.write_start style depth
  skips := readField_skipSpace room f
  whole := by
    obtain ⟨l', reads, value, keys⟩ := exists_rereads spaced depth within
    refine ⟨l'.toJson, fun rest ends => ?_⟩
    exact readField_complete (complete_read room) ext (reads rest ends) (keys distinct)
      (value ▸ fits)
  cut := by
    intro p hp cut
    obtain ⟨c, cs, text, space, _⟩ := l.write_start style depth
    have skip : skipSpace p = p := skipSpace_initial (text ▸ hp) space
    rcases readField_cases (Shape.read room) f p with ⟨⟨inner, start⟩, _, eq⟩ | ⟨other, eq⟩
    · rw [skip] at start eq
      obtain ⟨rest, same⟩ := hp
      have null : l = .value .null := eq_null_of_write (by rw [← same, start]; rfl)
      subst null
      have part : p <+: Json.write style depth .null := ⟨rest, same⟩
      rw [eq]
      rcases readScalar_cut (by simp) (by simp) part cut with cutOff | ⟨_, _, number, _⟩
      · exact cutOff.runsOut
      · cases number
    · rw [eq]
      rcases fits with allowed | fits
      · obtain ⟨isNull, need⟩ := allows_iff.mp allowed
        obtain rfl := eq_null isNull
        rcases List.prefix_cons_iff.mp hp with rfl | ⟨q, rfl, _⟩
        · exact (Shape.cutOff_read_nil room f.shape).runsOut
        · exact absurd ⟨⟨q, skip⟩, need⟩ other
      · exact (tells fits).cut p hp cut

/-- The layouts that fit in so much room. -/
def TellsLayouts (style : Style) (room : Nat) : Prop :=
  ∀ (s : Shape) (depth : Nat) (l : Layout), s.Extensible → l.Within room → l.KeysDistinct →
    Fits l.toJson s → Tells (s.read room) (l.write style depth)

section Steps
variable {items : List Layout} {entries : List (String × Layout)}

lemma cutOff_list (spaced : style.Spaced) (tells : TellsLayouts style room) (ext : s.Extensible)
    (within : (Layout.list items).Within (room + 1)) (distinct : (Layout.list items).KeysDistinct)
    (fits : Fits (Layout.list items).toJson s)
    (hp : p <+: (Layout.list items).write style depth)
    (cut : p ≠ (Layout.list items).write style depth) : CutOff (s.read (room + 1) p) := by
  rw [write, writeItems_eq] at hp cut
  rcases enclose_cut hp cut with rfl | ⟨q, rfl, hq⟩
  · exact Shape.cutOff_read_nil _ s
  rw [Shape.read_list (skipSpace_cons (by decide) q)]
  refine cutOff_readList spaced ext fits (List.forall_mem_map.mpr fun l hl => ?_) hq
  cases distinct with | list each =>
  rcases ext.list_cases fits with rfl | ⟨item, rfl, ext, good⟩
  · exact tells .any (depth + 1) l .any (within l hl) (each l hl) (fits_any _)
  · rw [itemValues_eq] at good
    exact tells item (depth + 1) l ext (within l hl) (each l hl) (good _ (List.mem_map_of_mem hl))

/-- The value of a member, which is one of a field or of any shape. -/
lemma tells_valueOf (spaced : style.Spaced) (tells : TellsLayouts style room) (ext : s.Extensible)
    (within : (Layout.record entries).Within (room + 1))
    (distinct : (Layout.record entries).KeysDistinct)
    (fits : Fits (Layout.record entries).toJson s) {m : String × Layout} (hm : m ∈ entries) :
    Tells (s.valueOf (Shape.read room) m.1) (m.2.write style depth) := by
  cases distinct with | record distinct each =>
  have held := get?_merged distinct hm
  have any := tells .any depth m.2 .any (within m hm) (each m hm) (fits_any _)
  rcases ext.object_cases fits with rfl | ⟨item, rfl, ext, good⟩ |
    ⟨_, fields, rfl, names, ext, suits⟩
  · exact any
  · exact tells item depth m.2 ext (within m hm) (each m hm) (good m.1 _ held)
  · have good := ((forall_suits_iff names).mp suits).1 m.1 _ held
    simp only [Shape.valueOf]
    cases hf : RecordField.find? fields m.1 with
    | none => exact any
    | some f =>
      have ext := ext f (List.mem_of_find?_eq_some hf)
      exact tells_field spaced ext (within m hm) (each m hm) (good f hf)
        (tells f.shape depth m.2 ext (within m hm) (each m hm))

lemma cutOff_record (spaced : style.Spaced) (tells : TellsLayouts style room) (ext : s.Extensible)
    (within : (Layout.record entries).Within (room + 1))
    (distinct : (Layout.record entries).KeysDistinct)
    (fits : Fits (Layout.record entries).toJson s)
    (hp : p <+: (Layout.record entries).write style depth)
    (cut : p ≠ (Layout.record entries).write style depth) : CutOff (s.read (room + 1) p) := by
  rw [write, writeMembers_eq] at hp cut
  rcases enclose_cut hp cut with rfl | ⟨q, rfl, hq⟩
  · exact Shape.cutOff_read_nil _ s
  rw [Shape.read_object (skipSpace_cons (by decide) q)]
  refine cutOff_readObject spaced ext fits
    (entries.map fun m => (m.1, m.2.write style (depth + 1)))
    (List.forall_mem_map.mpr fun m hm => tells_valueOf spaced tells ext within distinct fits hm)
    ?_ (by rwa [List.map_map])
  rw [List.map_map]
  cases distinct with | record distinct each =>
  exact distinct

end Steps

/-- With any room. -/
lemma tells_layouts (spaced : style.Spaced) (room : Nat) : TellsLayouts style room := by
  induction room using Nat.strongRecOn with
  | ind room ih =>
    intro s depth l ext within distinct fits
    refine tells_of_cut spaced ext within distinct fits fun p hp cut => ?_
    rw [← write_opened] at hp cut
    rw [← toJson_opened] at fits
    have within := within.opened
    have distinct := distinct.opened
    rcases l.opened_cases with ⟨v, same, noList, noObject⟩ | ⟨items, same⟩ | ⟨entries, same⟩
    all_goals rw [same] at hp cut fits within distinct
    · exact runsOut_flat ext fits noList noObject hp cut
    -- What is in brackets has less room.
    all_goals
      cases room with
      | zero => exact absurd within id
      | succ room => ?_
      have tells := ih room (Nat.lt_succ_self room)
    · exact (cutOff_list spaced tells ext within distinct fits hp cut).runsOut
    · exact (cutOff_record spaced tells ext within distinct fits hp cut).runsOut

end Layout

end Workspace.Json
