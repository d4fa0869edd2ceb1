import Mathlib.Data.List.Forall2
import Mathlib.Data.List.Nodup
import Workspace.Proofs.DocumentShape
import Workspace.Proofs.Outline

/-! Reading a text under a shape is reading its value and checking it. What is read under the
shape is the value of the text, and fits; and where no object repeats a key, a value that
fits is read. The condition is needed: a text that repeats a field is refused, and of
entries with one key the first ones are checked too, though they are not kept. -/
namespace Workspace.Json

/-- Every record of the shape keeps members that are not its fields. -/
inductive Shape.Extensible : Shape → Prop where
  | any : Extensible .any
  | string : Extensible .string
  | list {item : Shape} (h : Extensible item) : Extensible (.list item)
  | dict {item : Shape} (h : Extensible item) : Extensible (.dict item)
  | record {title : String} {fields : List (RecordField Shape)}
      (distinct : (fields.map RecordField.name).Nodup)
      (each : ∀ f ∈ fields, Extensible f.shape) : Extensible (.record title .extensible fields)

namespace Shape.Extensible
variable {s : Shape}

/-- The shapes that an object fits, and what it is for it to fit. -/
lemma object_cases (ext : s.Extensible) {m : Dict Json} (fits : Fits (.object m) s) :
    s = .any ∨
      (∃ item, s = .dict item ∧ item.Extensible ∧ ∀ k x, m.get? k = some x → Fits x item) ∨
      ∃ title fields, s = .record title .extensible fields ∧
        (fields.map RecordField.name).Nodup ∧ (∀ f ∈ fields, f.shape.Extensible) ∧
        ∀ f ∈ fields, Suits m f := by
  cases ext with
  | any => exact Or.inl rfl
  | string => cases fits_string.mp fits with | intro _ same => cases same
  | list _ => cases fits_list.mp fits with | intro _ same => cases same.1
  | dict ext =>
    obtain ⟨_, same, each⟩ := fits_dict.mp fits
    cases same
    exact Or.inr (Or.inl ⟨_, rfl, ext, each⟩)
  | record names ext =>
    exact Or.inr (Or.inr ⟨_, _, rfl, names, ext, (fits_members names).mp fits⟩)

/-- The shapes that a list fits, and what it is for it to fit. -/
lemma list_cases (ext : s.Extensible) {items : List Json} (fits : Fits (.list items) s) :
    s = .any ∨ ∃ item, s = .list item ∧ item.Extensible ∧ ∀ x ∈ items, Fits x item := by
  cases ext with
  | any => exact Or.inl rfl
  | string => cases fits_string.mp fits with | intro _ same => cases same
  | list ext =>
    obtain ⟨_, same, each⟩ := fits_list.mp fits
    cases same
    exact Or.inr ⟨_, rfl, ext, each⟩
  | dict _ => cases fits_dict.mp fits with | intro _ same => cases same.1
  | record names _ => cases (fits_extensible names).mp fits with | intro _ same => cases same.1

end Shape.Extensible

lemma bind_eq_ok {ε α β : Type} {x : Except ε α} {f : α → Except ε β} {b : β} :
    (x >>= f) = .ok b ↔ ∃ a, x = .ok a ∧ f a = .ok b := by
  cases x <;> simp [bind, Except.bind]

lemma map_eq_ok {ε α β : Type} {x : Except ε α} {f : α → β} {b : β} :
    x.map f = .ok b ↔ ∃ a, x = .ok a ∧ f a = b := by
  cases x <;> simp [Except.map]

/-- A result with a property that was computed. -/
lemma exists_ok_of_any {ε α : Type} {x : Except ε α} {p : α → Bool}
    (h : x.toOption.any p = true) : ∃ a, x = .ok a ∧ p a = true := by
  cases x with
  | error _ => cases h
  | ok a => exact ⟨a, rfl, h⟩

section Runs
variable {α β σ τ : Type} {steps : Nat} {first : Bool} {cs rest : List Char}

/-- Readers that agree on the items of a list agree on the list. -/
lemma readItems_sim {P : α → Prop} {R : α → β → Prop} {item : Reader α} {item' : Reader β}
    (step : ∀ cs a rest, P a → item cs = .ok (a, rest) →
      ∃ b, item' cs = .ok (b, rest) ∧ R a b)
    {as : List α} (good : ∀ a ∈ as, P a) (h : readItems item steps first cs = .ok (as, rest)) :
    ∃ bs, readItems item' steps first cs = .ok (bs, rest) ∧ List.Forall₂ R as bs := by
  induction steps generalizing first cs as with
  | zero => cases h
  | succ steps ih =>
    obtain ⟨⟨more, cs₁⟩, hnext, h⟩ := bind_eq_ok.mp h
    simp only [readItems, hnext]
    cases more with
    | false =>
      cases h
      exact ⟨[], rfl, .nil⟩
    | true =>
      obtain ⟨⟨a, cs₂⟩, hitem, h⟩ := bind_eq_ok.mp h
      obtain ⟨⟨as', cs₃⟩, hitems, h⟩ := bind_eq_ok.mp h
      cases h
      obtain ⟨b, hitem', hab⟩ := step cs₁ a cs₂ (good a (by simp)) hitem
      obtain ⟨bs, hitems', hbs⟩ := ih (fun a ha => good a (by simp [ha])) hitems
      exact ⟨b :: bs, by simp [hitem', hitems', bind, Except.bind], .cons hab hbs⟩

/-- What held before each member was read holds before all of them, if it is what must
have held for the property to hold after the member. -/
lemma readMembers_back {P : σ → Prop} {member : String → σ → Reader σ}
    (back : ∀ key a cs a' rest, member key a cs = .ok (a', rest) → P a' → P a)
    {a a' : σ} (good : P a') (h : readMembers member steps first a cs = .ok (a', rest)) : P a := by
  induction steps generalizing first cs a with
  | zero => cases h
  | succ steps ih =>
    obtain ⟨⟨key?, cs₁⟩, hnext, h⟩ := bind_eq_ok.mp h
    cases key? with
    | none => cases h; exact good
    | some key =>
      obtain ⟨⟨a₁, cs₂⟩, hmember, h⟩ := bind_eq_ok.mp h
      exact back key a cs₁ a₁ cs₂ hmember (ih h)

/-- Readers that agree on the members of an object, one after the other, agree on the object. -/
lemma readMembers_sim {P : σ → Prop} {R : σ → τ → Prop} {member : String → σ → Reader σ}
    {member' : String → τ → Reader τ}
    (back : ∀ key a cs a' rest, member key a cs = .ok (a', rest) → P a' → P a)
    (step : ∀ key a b cs a' rest, P a' → R a b → member key a cs = .ok (a', rest) →
      ∃ b', member' key b cs = .ok (b', rest) ∧ R a' b')
    {a a' : σ} {b : τ} (good : P a') (start : R a b)
    (h : readMembers member steps first a cs = .ok (a', rest)) :
    ∃ b', readMembers member' steps first b cs = .ok (b', rest) ∧ R a' b' := by
  induction steps generalizing first cs a b with
  | zero => cases h
  | succ steps ih =>
    obtain ⟨⟨key?, cs₁⟩, hnext, h⟩ := bind_eq_ok.mp h
    simp only [readMembers, hnext]
    cases key? with
    | none =>
      cases h
      exact ⟨b, rfl, start⟩
    | some key =>
      obtain ⟨⟨a₁, cs₂⟩, hmember, h⟩ := bind_eq_ok.mp h
      obtain ⟨b₁, hmember', related⟩ :=
        step key a b cs₁ a₁ cs₂ (readMembers_back back good h) start hmember
      obtain ⟨b', hmembers', related⟩ := ih related h
      exact ⟨b', by simp [hmember', hmembers', bind, Except.bind], related⟩

end Runs

section Shapes
variable {room : Nat} {s : Shape} {v : Json} {cs inner rest : List Char}

lemma read_flat_eq_ok (h : StartsFlat cs) :
    s.read room cs = .ok (v, rest) ↔ readScalar (skipSpace cs) = .ok (v, rest) ∧ Fits v s := by
  rw [Shape.read_flat h, bind_eq_ok, Fits]
  constructor
  · rintro ⟨⟨w, rest'⟩, scalar, checked⟩
    cases hw : s.check w with
    | error m => simp [hw] at checked
    | ok =>
      simp only [hw, Except.ok.injEq, Prod.mk.injEq] at checked
      obtain ⟨rfl, rfl⟩ := checked
      exact ⟨scalar, hw⟩
  · rintro ⟨scalar, fits⟩
    exact ⟨(v, rest), scalar, by simp [fits]⟩

lemma Layout.read_flat_eq_ok {l : Layout} (h : StartsFlat cs) :
    Layout.read room cs = .ok (l, rest) ↔
      ∃ v, l = .value v ∧ readScalar (skipSpace cs) = .ok (v, rest) := by
  rw [Layout.read_flat h, bind_eq_ok]
  constructor
  · rintro ⟨⟨v, rest'⟩, scalar, equal⟩
    cases equal
    exact ⟨v, rfl, scalar⟩
  · rintro ⟨v, rfl, scalar⟩
    exact ⟨(v, rest), scalar, rfl⟩

/-- Of the scalars null alone starts with this letter. -/
lemma readScalar_null_iff (h : readScalar cs = .ok (v, rest)) :
    v = .null ↔ ∃ inner, cs = 'n' :: inner := by
  cases cs with
  | nil => cases h
  | cons c cs =>
    have start : (∃ inner, c :: cs = 'n' :: inner) ↔ c = 'n' := by simp
    rw [start]
    by_cases hn : c = 'n'
    · subst hn
      obtain ⟨read, _, hv⟩ := bind_eq_ok.mp h
      cases hv
      simp
    · refine iff_of_false ?_ hn
      rintro rfl
      simp only [readScalar, hn, if_false] at h
      split_ifs at h
      all_goals
        obtain ⟨read, _, hv⟩ := bind_eq_ok.mp h
        cases hv

/-- A field is read as a scalar where it may be null and looks like it, and else as its
shape says. -/
lemma readField_cases (value : Shape → Reader Json) (f : RecordField Shape) (cs : List Char) :
    ((∃ inner, skipSpace cs = 'n' :: inner) ∧ f.need = .nullable ∧
      readField value f cs = readScalar (skipSpace cs)) ∨
    (¬((∃ inner, skipSpace cs = 'n' :: inner) ∧ f.need = .nullable) ∧
      readField value f cs = value f.shape cs) := by
  unfold readField
  split
  · rename_i need start
    exact Or.inl ⟨⟨_, start⟩, need, by rw [start]; rfl⟩
  · rename_i other
    exact Or.inr ⟨fun ⟨⟨_, start⟩, need⟩ => other _ need start, rfl⟩

lemma startsFlat_of_null (h : ∃ inner, skipSpace cs = 'n' :: inner) : StartsFlat cs := by
  obtain ⟨inner, h⟩ := h
  intro inner'
  simp [h]

end Shapes

/-! What is read under a shape is the value of the text, and fits. -/

section Sound
variable {room : Nat} {v : Json} {cs rest : List Char}

/-- What is read under shapes with so much room is the value of the text, and fits. -/
def Sound (room : Nat) : Prop :=
  ∀ (s : Shape) (cs rest : List Char) (v : Json), s.Extensible → s.read room cs = .ok (v, rest) →
    Shape.any.read room cs = .ok (v, rest) ∧ Fits v s

lemma readField_sound (sound : Sound room) {f : RecordField Shape} (ext : f.shape.Extensible)
    (h : readField (Shape.read room) f cs = .ok (v, rest)) :
    Shape.any.read room cs = .ok (v, rest) ∧ FitsField v f := by
  rcases readField_cases (Shape.read room) f cs with ⟨start, need, eq⟩ | ⟨_, eq⟩
  · rw [eq] at h
    refine ⟨(read_flat_eq_ok (startsFlat_of_null start)).mpr ⟨h, fits_any v⟩, Or.inl ?_⟩
    rw [(readScalar_null_iff h).mpr start]
    simp [RecordField.allows, need]
  · rw [eq] at h
    obtain ⟨any, fits⟩ := sound f.shape cs rest v ext h
    exact ⟨any, Or.inr fits⟩

lemma dictMember_eq_ok {value : Reader Json} {key : String} {seen seen' : Dict Json} :
    dictMember value key seen cs = .ok (seen', rest) ↔
      ∃ cs' v, readColon cs = .ok ((), cs') ∧ value cs' = .ok (v, rest) ∧
        seen' = seen.insert key v := by
  constructor
  · intro h
    obtain ⟨⟨_, cs'⟩, colon, h⟩ := bind_eq_ok.mp h
    obtain ⟨⟨v, rest'⟩, read, h⟩ := bind_eq_ok.mp h
    cases h
    exact ⟨cs', v, colon, read, rfl⟩
  · rintro ⟨cs', v, colon, read, rfl⟩
    exact bind_eq_ok.mpr ⟨_, colon, bind_eq_ok.mpr ⟨_, read, rfl⟩⟩

/-- Members that are each read as any member, and are good, make up an object that is read
as any object and whose members are good. -/
lemma readMembers_sound {good : String → Json → Prop}
    {member : String → Dict Json → Reader (Dict Json)} {value : Reader Json}
    (step : ∀ key seen cs seen' rest, member key seen cs = .ok (seen', rest) →
      dictMember value key seen cs = .ok (seen', rest) ∧
        ∃ v, seen' = seen.insert key v ∧ good key v)
    {steps : Nat} {m : Dict Json}
    (h : readMembers member steps true .empty cs = .ok (m, rest)) :
    readMembers (dictMember value) steps true .empty cs = .ok (m, rest) ∧
      ∀ k v, m.get? k = some v → good k v := by
  have step' : ∀ key seen seen₀ cs seen' rest, True →
      (seen = seen₀ ∧ ∀ k v, seen.get? k = some v → good k v) →
      member key seen cs = .ok (seen', rest) →
      ∃ seen₁, dictMember value key seen₀ cs = .ok (seen₁, rest) ∧
        seen' = seen₁ ∧ ∀ k v, seen'.get? k = some v → good k v := by
    rintro key seen _ cs seen' rest - ⟨rfl, each⟩ hmember
    obtain ⟨read, w, rfl, hw⟩ := step key seen cs seen' rest hmember
    refine ⟨_, read, rfl, fun k v hv => ?_⟩
    rw [Dict.get?_insert] at hv
    split at hv
    · rename_i here
      obtain rfl := Option.some.inj hv
      exact here ▸ hw
    · exact each k v hv
  obtain ⟨m', read, rfl, each⟩ := readMembers_sim (fun _ _ _ _ _ _ _ => trivial) step' trivial
    ⟨rfl, fun k v hv => by cases hv⟩ h
  exact ⟨read, each⟩

lemma sound_zero : Sound 0 := by
  intro s cs rest v ext h
  rcases starts_cases cs with ⟨inner, start⟩ | ⟨inner, start⟩ | start
  · rw [Shape.read_object_zero start, refuse] at h
    split at h <;> cases h
  · rw [Shape.read_list_zero start, refuse] at h
    split at h <;> cases h
  · obtain ⟨scalar, fits⟩ := (read_flat_eq_ok start).mp h
    exact ⟨(read_flat_eq_ok start).mpr ⟨scalar, fits_any v⟩, fits⟩

lemma recordMember_sound (sound : Sound room) {fields : List (RecordField Shape)}
    (each : ∀ f ∈ fields, f.shape.Extensible) {key : String} {seen seen' : Dict Json}
    (h : recordMember (Shape.read room) .extensible fields key seen cs = .ok (seen', rest)) :
    dictMember (Shape.any.read room) key seen cs = .ok (seen', rest) ∧
      ∃ v, seen' = seen.insert key v ∧
        ∀ f, RecordField.find? fields key = some f → FitsField v f := by
  unfold recordMember at h
  cases hf : RecordField.find? fields key with
  | none =>
    simp only [hf, if_true] at h
    obtain ⟨cs', v, _, _, rfl⟩ := dictMember_eq_ok.mp h
    exact ⟨h, v, rfl, by simp⟩
  | some f =>
    simp only [hf] at h
    split at h
    · cases h
    · obtain ⟨cs', v, colon, read, rfl⟩ := dictMember_eq_ok.mp h
      obtain ⟨any, fits⟩ := readField_sound sound (each f (List.mem_of_find?_eq_some hf)) read
      exact ⟨dictMember_eq_ok.mpr ⟨cs', v, colon, any, rfl⟩, v, rfl, by simp [fits]⟩

lemma readObject_sound (sound : Sound room) {s : Shape} (ext : s.Extensible)
    (h : readObject (Shape.read room) s cs = .ok (v, rest)) :
    readObject (Shape.read room) .any cs = .ok (v, rest) ∧ Fits v s := by
  cases ext with
  | any => exact ⟨h, fits_any v⟩
  | string | list _ => cases h
  | @dict item ext =>
    obtain ⟨⟨m, rest'⟩, members, hv⟩ := bind_eq_ok.mp h
    cases hv
    have step : ∀ key seen cs seen' rest,
        dictMember (Shape.read room item) key seen cs = .ok (seen', rest) →
        dictMember (Shape.any.read room) key seen cs = .ok (seen', rest) ∧
          ∃ v, seen' = seen.insert key v ∧ Fits v item := by
      intro key seen cs seen' rest member
      obtain ⟨cs', v, colon, read, rfl⟩ := dictMember_eq_ok.mp member
      obtain ⟨any, fits⟩ := sound item cs' rest v ext read
      exact ⟨dictMember_eq_ok.mpr ⟨cs', v, colon, any, rfl⟩, v, rfl, fits⟩
    obtain ⟨read, each⟩ := readMembers_sound step members
    exact ⟨bind_eq_ok.mpr ⟨_, read, rfl⟩, fits_dict.mpr ⟨m, rfl, each⟩⟩
  | @record title fields distinct each =>
    obtain ⟨⟨m, rest'⟩, members, hv⟩ := bind_eq_ok.mp h
    obtain ⟨read, good⟩ :=
      readMembers_sound (fun _ _ _ _ _ => recordMember_sound sound each) members
    cases missing : RecordField.missing? fields m with
    | some name => simp [missing] at hv
    | none =>
      simp only [missing, Except.ok.injEq, Prod.mk.injEq] at hv
      obtain ⟨rfl, rfl⟩ := hv
      exact ⟨bind_eq_ok.mpr ⟨_, read, rfl⟩, (fits_extensible distinct).mpr
        ⟨m, rfl, (forall_suits_iff distinct).mpr ⟨good, missing⟩⟩⟩

lemma readList_sound (sound : Sound room) {s : Shape} (ext : s.Extensible)
    (h : readList (Shape.read room) s cs = .ok (v, rest)) :
    readList (Shape.read room) .any cs = .ok (v, rest) ∧ Fits v s := by
  cases ext with
  | any => exact ⟨h, fits_any v⟩
  | string | dict _ | record _ _ => cases h
  | @list item ext =>
    obtain ⟨⟨vs, rest'⟩, items, hv⟩ := bind_eq_ok.mp h
    cases hv
    have step : ∀ cs a rest, True → Shape.read room item cs = .ok (a, rest) →
        ∃ b, Shape.any.read room cs = .ok (b, rest) ∧ Fits a item ∧ a = b := by
      intro cs a rest _ read
      obtain ⟨any, fits⟩ := sound item cs rest a ext read
      exact ⟨a, any, fits, rfl⟩
    obtain ⟨ws, read, same⟩ := readItems_sim step (fun _ _ => trivial) items
    obtain ⟨fits, same⟩ := (List.forall₂_and_left vs ws).mp same
    rw [List.forall₂_eq_eq_eq] at same
    obtain rfl := same
    exact ⟨bind_eq_ok.mpr ⟨_, read, rfl⟩, fits_list.mpr ⟨vs, rfl, fits⟩⟩

/-- With any room. -/
lemma sound_read (room : Nat) : Sound room := by
  induction room with
  | zero => exact sound_zero
  | succ room ih =>
    intro s cs rest v ext h
    rcases starts_cases cs with ⟨inner, start⟩ | ⟨inner, start⟩ | start
    · rw [Shape.read_object start] at h ⊢
      exact readObject_sound ih ext h
    · rw [Shape.read_list start] at h ⊢
      exact readList_sound ih ext h
    · obtain ⟨scalar, fits⟩ := (read_flat_eq_ok start).mp h
      exact ⟨(read_flat_eq_ok start).mpr ⟨scalar, fits_any v⟩, fits⟩

end Sound

/-! What fits is read, where no object repeats a key. -/

section Complete
variable {room : Nat} {l : Layout} {cs rest : List Char}

/-- What is laid out with so much room, repeats no key and fits a shape is read under it. -/
def Complete (room : Nat) : Prop :=
  ∀ (s : Shape) (cs rest : List Char) (l : Layout), s.Extensible →
    Layout.read room cs = .ok (l, rest) → l.KeysDistinct → Fits l.toJson s →
    s.read room cs = .ok (l.toJson, rest)

lemma any_of_layout (h : Layout.read room cs = .ok (l, rest)) :
    Shape.any.read room cs = .ok (l.toJson, rest) := by
  rw [Layout.read_any, mapReader, h]
  rfl

/-- A null is written as one. -/
lemma starts_of_null (h : Shape.any.read room cs = .ok (.null, rest)) :
    ∃ inner, skipSpace cs = 'n' :: inner := by
  rcases starts_cases cs with ⟨inner, start⟩ | ⟨inner, start⟩ | start
  · cases room with
    | zero => rw [Shape.read_object_zero start] at h; cases h
    | succ room =>
      rw [Shape.read_object start] at h
      obtain ⟨_, _, h⟩ := bind_eq_ok.mp h
      cases h
  · cases room with
    | zero => rw [Shape.read_list_zero start] at h; cases h
    | succ room =>
      rw [Shape.read_list start] at h
      obtain ⟨_, _, h⟩ := bind_eq_ok.mp h
      cases h
  · exact (readScalar_null_iff ((read_flat_eq_ok start).mp h).1).mp rfl

lemma allows_iff {v : Json} {f : RecordField Shape} :
    f.allows v = true ↔ v = .null ∧ f.need = .nullable := by
  cases v <;> simp [RecordField.allows]

lemma readField_complete (complete : Complete room) {f : RecordField Shape}
    (ext : f.shape.Extensible) (h : Layout.read room cs = .ok (l, rest))
    (distinct : l.KeysDistinct) (fits : FitsField l.toJson f) :
    readField (Shape.read room) f cs = .ok (l.toJson, rest) := by
  rcases readField_cases (Shape.read room) f cs with ⟨start, _, eq⟩ | ⟨other, eq⟩
  · rw [eq]
    exact ((read_flat_eq_ok (startsFlat_of_null start)).mp (any_of_layout h)).1
  · rw [eq]
    rcases fits with allowed | fits
    · obtain ⟨null, need⟩ := allows_iff.mp allowed
      exact absurd ⟨starts_of_null (null ▸ any_of_layout h), need⟩ other
    · exact complete f.shape cs rest l ext h distinct fits

/-- What an object must hold for its members to be read one by one. -/
structure Readable (good : String → Json → Prop) (members : List (String × Layout)) : Prop where
  distinct : (members.map Prod.fst).Nodup
  each : ∀ m ∈ members, m.2.KeysDistinct ∧ good m.1 m.2.toJson

lemma readMember_eq_ok {value : Reader Layout} {key : String}
    {seen seen' : List (String × Layout)} :
    Layout.readMember value key seen cs = .ok (seen', rest) ↔
      ∃ cs' l, readColon cs = .ok ((), cs') ∧ value cs' = .ok (l, rest) ∧
        seen' = seen ++ [(key, l)] := by
  constructor
  · intro h
    obtain ⟨⟨_, cs'⟩, colon, h⟩ := bind_eq_ok.mp h
    obtain ⟨⟨l, rest'⟩, read, h⟩ := bind_eq_ok.mp h
    cases h
    exact ⟨cs', l, colon, read, rfl⟩
  · rintro ⟨cs', l, colon, read, rfl⟩
    exact bind_eq_ok.mpr ⟨_, colon, bind_eq_ok.mpr ⟨_, read, rfl⟩⟩

lemma contains_merged {members : List (String × Layout)} {key : String}
    (h : key ∉ members.map Prod.fst) : (Layout.merged members).contains key = false := by
  have absent : (Layout.merged members).get? key = none :=
    Dict.get?_ofList_eq_none (by simpa [Layout.memberValues_eq] using h)
  rw [Chain.contains, absent]
  rfl

lemma get?_merged {members : List (String × Layout)}
    (distinct : (members.map Prod.fst).Nodup) {m : String × Layout} (h : m ∈ members) :
    (Layout.merged members).get? m.1 = some m.2.toJson := by
  have keys : (Layout.memberValues members).map Prod.fst = members.map Prod.fst := by
    simp [Layout.memberValues_eq]
  have entry : (m.1, m.2.toJson) ∈ Layout.memberValues members := by
    rw [Layout.memberValues_eq]
    exact List.mem_map_of_mem h
  exact Dict.get?_ofList_of_mem (keys ▸ distinct) entry

lemma readMembers_complete {good : String → Json → Prop}
    {member : String → Dict Json → Reader (Dict Json)} {value : Reader Layout}
    (step : ∀ key seen cs cs' rest l, seen.contains key = false → readColon cs = .ok ((), cs') →
      value cs' = .ok (l, rest) → l.KeysDistinct → good key l.toJson →
      member key seen cs = .ok (seen.insert key l.toJson, rest))
    {steps : Nat} {members : List (String × Layout)} (readable : Readable good members)
    (h : readMembers (Layout.readMember value) steps true [] cs = .ok (members, rest)) :
    readMembers member steps true .empty cs = .ok (Layout.merged members, rest) := by
  have back : ∀ key a cs a' rest, Layout.readMember value key a cs = .ok (a', rest) →
      Readable good a' → Readable good a := by
    intro key a cs a' rest read readable
    obtain ⟨_, l, _, _, rfl⟩ := readMember_eq_ok.mp read
    refine ⟨?_, fun m hm => readable.each m (by simp [hm])⟩
    have distinct := readable.distinct
    rw [List.map_append] at distinct
    exact distinct.of_append_left
  have step' : ∀ key a b cs a' rest, Readable good a' → Layout.merged a = b →
      Layout.readMember value key a cs = .ok (a', rest) →
      ∃ b', member key b cs = .ok (b', rest) ∧ Layout.merged a' = b' := by
    rintro key a _ cs a' rest readable rfl read
    obtain ⟨cs', l, colon, hl, rfl⟩ := readMember_eq_ok.mp read
    have fresh : key ∉ a.map Prod.fst := by
      have distinct := readable.distinct
      rw [List.map_append] at distinct
      simpa using List.disjoint_of_nodup_append distinct
    obtain ⟨distinct, good⟩ := readable.each (key, l) (by simp)
    exact ⟨_, step key _ cs cs' rest l (contains_merged fresh) colon hl distinct good,
      Layout.merged_concat a key l⟩
  obtain ⟨m, read, rfl⟩ := readMembers_sim back step' readable rfl h
  exact read

lemma recordMember_complete (complete : Complete room) {fields : List (RecordField Shape)}
    (ext : ∀ f ∈ fields, f.shape.Extensible) {key : String} {seen : Dict Json}
    {cs' : List Char} (fresh : seen.contains key = false) (colon : readColon cs = .ok ((), cs'))
    (h : Layout.read room cs' = .ok (l, rest)) (distinct : l.KeysDistinct)
    (good : ∀ f, RecordField.find? fields key = some f → FitsField l.toJson f) :
    recordMember (Shape.read room) .extensible fields key seen cs =
      .ok (seen.insert key l.toJson, rest) := by
  unfold recordMember
  cases hf : RecordField.find? fields key with
  | none =>
    simp only [if_true]
    exact dictMember_eq_ok.mpr ⟨cs', l.toJson, colon, any_of_layout h, rfl⟩
  | some f =>
    simp only [fresh, Bool.false_eq_true, if_false]
    have field := readField_complete complete (ext f (List.mem_of_find?_eq_some hf)) h distinct
      (good f hf)
    exact dictMember_eq_ok.mpr ⟨cs', l.toJson, colon, field, rfl⟩

lemma readDict_complete (complete : Complete room) {item : Shape} (ext : item.Extensible)
    {members : List (String × Layout)}
    (h : readMembers (Layout.readMember (Layout.read room)) cs.length true [] cs =
      .ok (members, rest))
    (distinct : (Layout.record members).KeysDistinct)
    (good : ∀ k x, (Layout.merged members).get? k = some x → Fits x item) :
    readObject (Shape.read room) (.dict item) cs = .ok (.object (Layout.merged members), rest) := by
  cases distinct with | record distinct each =>
  have readable : Readable (fun _ v => Fits v item) members :=
    ⟨distinct, fun m hm => ⟨each m hm, good m.1 _ (get?_merged distinct hm)⟩⟩
  have step : ∀ key seen cs cs' rest l, seen.contains key = false →
      readColon cs = .ok ((), cs') → Layout.read room cs' = .ok (l, rest) → l.KeysDistinct →
      Fits l.toJson item →
      dictMember (Shape.read room item) key seen cs = .ok (seen.insert key l.toJson, rest) := by
    intro key seen cs cs' rest l _ colon hl distinct fits
    exact dictMember_eq_ok.mpr
      ⟨cs', l.toJson, colon, complete item cs' rest l ext hl distinct fits, rfl⟩
  exact bind_eq_ok.mpr ⟨_, readMembers_complete step readable h, rfl⟩

lemma readRecord_complete (complete : Complete room) {title : String}
    {fields : List (RecordField Shape)} (names : (fields.map RecordField.name).Nodup)
    (ext : ∀ f ∈ fields, f.shape.Extensible) {members : List (String × Layout)}
    (h : readMembers (Layout.readMember (Layout.read room)) cs.length true [] cs =
      .ok (members, rest))
    (distinct : (Layout.record members).KeysDistinct)
    (suits : ∀ f ∈ fields, Suits (Layout.merged members) f) :
    readObject (Shape.read room) (.record title .extensible fields) cs =
      .ok (.object (Layout.merged members), rest) := by
  obtain ⟨good, missing⟩ := (forall_suits_iff names).mp suits
  cases distinct with | record distinct each =>
  have readable : Readable
      (fun k v => ∀ f, RecordField.find? fields k = some f → FitsField v f) members :=
    ⟨distinct, fun m hm => ⟨each m hm, good m.1 _ (get?_merged distinct hm)⟩⟩
  have step : ∀ key seen cs cs' rest l, seen.contains key = false →
      readColon cs = .ok ((), cs') → Layout.read room cs' = .ok (l, rest) → l.KeysDistinct →
      (∀ f, RecordField.find? fields key = some f → FitsField l.toJson f) →
      recordMember (Shape.read room) .extensible fields key seen cs =
        .ok (seen.insert key l.toJson, rest) :=
    fun _ _ _ _ _ _ fresh colon hl distinct good =>
      recordMember_complete complete ext fresh colon hl distinct good
  exact bind_eq_ok.mpr ⟨_, readMembers_complete step readable h, by simp [missing]⟩

lemma readList_complete (complete : Complete room) {item : Shape} (ext : item.Extensible)
    {items : List Layout} (h : readItems (Layout.read room) cs.length true cs = .ok (items, rest))
    (distinct : (Layout.list items).KeysDistinct)
    (good : ∀ x ∈ Layout.itemValues items, Fits x item) :
    readList (Shape.read room) (.list item) cs = .ok (.list (Layout.itemValues items), rest) := by
  cases distinct with | list each =>
  rw [Layout.itemValues_eq] at good ⊢
  have step : ∀ cs l rest, (l.KeysDistinct ∧ Fits l.toJson item) →
      Layout.read room cs = .ok (l, rest) →
      ∃ v, Shape.read room item cs = .ok (v, rest) ∧ l.toJson = v := by
    rintro cs l rest ⟨distinct, fits⟩ hl
    exact ⟨l.toJson, complete item cs rest l ext hl distinct fits, rfl⟩
  have items_good : ∀ l ∈ items, l.KeysDistinct ∧ Fits l.toJson item := fun l hl =>
    ⟨each l hl, good _ (List.mem_map_of_mem hl)⟩
  obtain ⟨vs, read, same⟩ := readItems_sim step items_good h
  rw [← List.forall₂_map_left_iff, List.forall₂_eq_eq_eq] at same
  obtain rfl := same
  exact bind_eq_ok.mpr ⟨_, read, rfl⟩

lemma complete_flat (start : StartsFlat cs) {s : Shape}
    (h : Layout.read room cs = .ok (l, rest)) (fits : Fits l.toJson s) :
    s.read room cs = .ok (l.toJson, rest) := by
  obtain ⟨v, rfl, scalar⟩ := (Layout.read_flat_eq_ok start).mp h
  exact (read_flat_eq_ok start).mpr ⟨scalar, fits⟩

/-- With any room. -/
lemma complete_read (room : Nat) : Complete room := by
  induction room with
  | zero =>
    intro s cs rest l _ h _ fits
    rcases starts_cases cs with ⟨inner, start⟩ | ⟨inner, start⟩ | start
    · rw [Layout.read_object_zero start] at h
      cases h
    · rw [Layout.read_list_zero start] at h
      cases h
    · exact complete_flat start h fits
  | succ room ih =>
    intro s cs rest l ext h distinct fits
    rcases starts_cases cs with ⟨inner, start⟩ | ⟨inner, start⟩ | start
    · have whole := any_of_layout h
      rw [Layout.read_object start] at h
      obtain ⟨⟨members, rest'⟩, hmembers, h⟩ := bind_eq_ok.mp h
      cases h
      rw [Shape.read_object start] at whole ⊢
      rcases ext.object_cases fits with rfl | ⟨_, rfl, ext, good⟩ | ⟨_, _, rfl, names, ext, suits⟩
      · exact whole
      · exact readDict_complete ih ext hmembers distinct good
      · exact readRecord_complete ih names ext hmembers distinct suits
    · have whole := any_of_layout h
      rw [Layout.read_list start] at h
      obtain ⟨⟨items, rest'⟩, hitems, h⟩ := bind_eq_ok.mp h
      cases h
      rw [Shape.read_list start] at whole ⊢
      rcases ext.list_cases fits with rfl | ⟨_, rfl, ext, good⟩
      · exact whole
      · exact readList_complete ih ext hitems distinct good
    · exact complete_flat start h fits

end Complete

/-! Whole texts. -/

section Texts
variable {s : Shape} {v : Json} {text : List Char}

lemma parse_eq_ok : s.parse text = .ok v ↔
    ∃ rest, s.read nestingLimit text = .ok (v, rest) ∧ (skipSpace rest).isEmpty = true := by
  rw [Shape.parse, bind_eq_ok]
  constructor
  · rintro ⟨⟨w, rest⟩, read, h⟩
    by_cases done : (skipSpace rest).isEmpty = true
    · obtain rfl : w = v := by simpa [done] using h
      exact ⟨rest, read, done⟩
    · simp [done] at h
  · rintro ⟨rest, read, done⟩
    exact ⟨(v, rest), read, if_pos done⟩

/-- Under a shape a text is read as its value, which fits. -/
theorem parse_sound (ext : s.Extensible) (h : s.parse text = .ok v) :
    Shape.any.parse text = .ok v ∧ Fits v s := by
  obtain ⟨rest, read, done⟩ := parse_eq_ok.mp h
  obtain ⟨any, fits⟩ := sound_read nestingLimit s text rest v ext read
  exact ⟨parse_eq_ok.mpr ⟨rest, any, done⟩, fits⟩

/-- A text whose layout repeats no key and whose value fits is read under the shape. -/
theorem parse_complete (ext : s.Extensible) {l : Layout} (h : Layout.parse text = .ok l)
    (distinct : l.KeysDistinct) (fits : Fits l.toJson s) : s.parse text = .ok l.toJson := by
  obtain ⟨⟨l', rest⟩, read, h⟩ := bind_eq_ok.mp h
  by_cases done : (skipSpace rest).isEmpty = true
  · obtain rfl : l' = l := by simpa [done] using h
    exact parse_eq_ok.mpr
      ⟨rest, complete_read nestingLimit s text rest l' ext read distinct fits, done⟩
  · simp [done] at h

end Texts

end Workspace.Json
