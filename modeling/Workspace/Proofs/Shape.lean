import Mathlib.Tactic.Common
import Workspace.Dict.Lemmas
import Workspace.Json.Decoder

/-! What it is for a value to fit a shape, one law for each kind of shape. The check stops
at the first misfit and says where it is; whether there is one does not depend on the
order, so members are quantified over by look-up. -/
namespace Workspace

namespace Json

/-- The check finds nothing wrong. -/
def Fits (v : Json) (s : Shape) : Prop := s.check v = .ok ()

instance (v : Json) (s : Shape) : Decidable (Fits v s) :=
  inferInstanceAs (Decidable (s.check v = .ok ()))

/-- A member is good for a field: it is a null the field allows, or it fits. -/
def FitsField (v : Json) (f : RecordField Shape) : Prop := f.allows v = true ∨ Fits v f.shape

lemma seq_eq_ok {ε : Type} {x : Except ε Unit} {f : Unit → Except ε Unit} :
    (x >>= f) = .ok () ↔ x = .ok () ∧ f () = .ok () := by
  cases x <;> simp [bind, Except.bind]

lemma fits_any (v : Json) : Fits v .any := by
  cases v <;> rfl

lemma fits_string {v : Json} : Fits v .string ↔ ∃ s, v = .string s := by
  cases v <;> simp [Fits, Shape.check, Shape.wrongType]

lemma checkItems_eq_ok {items : List Json} {item : Shape} :
    Shape.checkItems items item = .ok () ↔ ∀ v ∈ items, Fits v item := by
  induction items with
  | nil => simp [Shape.checkItems]
  | cons v rest ih => simp only [Shape.checkItems, seq_eq_ok, ih, Fits, List.forall_mem_cons]

lemma fits_list {v : Json} {item : Shape} :
    Fits v (.list item) ↔ ∃ items, v = .list items ∧ ∀ x ∈ items, Fits x item := by
  cases v <;> simp [Fits, Shape.check, Shape.wrongType, checkItems_eq_ok]

lemma checkMembers_eq_ok {lo : Option String} {members : Chain Json lo}
    {field? : String → Option (RecordField Shape)} :
    Shape.checkMembers members field? = .ok () ↔
      ∀ k v, members.get? k = some v → ∀ f, field? k = some f → FitsField v f := by
  induction members with
  | nil => simp [Shape.checkMembers, Chain.get?]
  | cons key above v rest ih =>
    rw [Chain.forall_get?_cons, ← ih, Shape.checkMembers]
    cases hf : field? key with
    | none => simp
    | some f => by_cases ha : f.allows v <;> simp [ha, seq_eq_ok, FitsField, Fits]

/-- The field of a dictionary's values stands for every key and allows no null. -/
lemma fits_dict {v : Json} {item : Shape} :
    Fits v (.dict item) ↔
      ∃ m : Dict Json, v = .object m ∧ ∀ k x, m.get? k = some x → Fits x item := by
  cases v with
  | object m =>
    have field (x : Json) : FitsField x ⟨"", .required, item⟩ ↔ Shape.check x item = .ok () := by
      cases x <;> simp [FitsField, RecordField.allows, Fits]
    simp [Fits, Shape.check, checkMembers_eq_ok, field]
  | _ => simp [Fits, Shape.check, Shape.wrongType]

/-- A record's members suit one of its fields. -/
def Suits (m : Dict Json) (f : RecordField Shape) : Prop :=
  match m.get? f.name with
  | some v => FitsField v f
  | none => f.need ≠ .required

lemma suits_required {m : Dict Json} {key : String} {s : Shape} :
    Suits m ⟨key, .required, s⟩ ↔ ∃ v, m.get? key = some v ∧ Fits v s := by
  unfold Suits
  cases m.get? key with
  | none => simp
  | some v => cases v <;> simp [FitsField, RecordField.allows]

lemma suits_nullable {m : Dict Json} {key : String} {s : Shape} :
    Suits m ⟨key, .nullable, s⟩ ↔ ∀ v, m.get? key = some v → v ≠ .null → Fits v s := by
  unfold Suits
  cases m.get? key with
  | none => simp
  | some v => cases v <;> simp [FitsField, RecordField.allows]

lemma find?_eq_some {fields : List (RecordField Shape)} (distinct : (fields.map (·.name)).Nodup)
    {k : String} {f : RecordField Shape} :
    RecordField.find? fields k = some f ↔ f ∈ fields ∧ f.name = k := by
  constructor
  · intro h
    exact ⟨List.mem_of_find?_eq_some h, by simpa using List.find?_some h⟩
  · rintro ⟨mem, rfl⟩
    rw [RecordField.find?, ← List.head?_filter, filter_eq_singleton distinct mem]
    rfl

lemma missing?_eq_none {fields : List (RecordField Shape)} {m : Dict Json} :
    RecordField.missing? fields m = none ↔
      ∀ f ∈ fields, m.get? f.name = none → f.need ≠ .required := by
  simp only [RecordField.missing?, Chain.contains, Option.map_eq_none_iff, List.find?_eq_none,
    Bool.and_eq_true, Bool.not_eq_true', beq_iff_eq, Option.isSome_eq_false_iff,
    Option.isNone_iff_eq_none, not_and]
  exact forall₂_congr fun f _ => ⟨fun h hn hr => h hr hn, fun h hr hn => h hn hr⟩

/-- Asking member by member, and then for what is missing, is asking field by field. -/
lemma forall_suits_iff {fields : List (RecordField Shape)} {m : Dict Json}
    (distinct : (fields.map (·.name)).Nodup) :
    (∀ f ∈ fields, Suits m f) ↔
      (∀ k v, m.get? k = some v →
        ∀ f, RecordField.find? fields k = some f → FitsField v f) ∧
      RecordField.missing? fields m = none := by
  rw [missing?_eq_none]
  constructor
  · intro h
    constructor
    · intro k v hv f hf
      obtain ⟨mem, rfl⟩ := (find?_eq_some distinct).mp hf
      simpa only [Suits, hv] using h f mem
    · intro f mem hnone
      simpa only [Suits, hnone] using h f mem
  · rintro ⟨fit, present⟩ f mem
    unfold Suits
    split
    · exact fit f.name _ ‹_› f ((find?_eq_some distinct).mpr ⟨mem, rfl⟩)
    · exact present f mem ‹_›

/-- An object fits a record, however else it may be written, by its fields. -/
lemma fits_members {m : Dict Json} {title : String} {form : Form}
    {fields : List (RecordField Shape)} (distinct : (fields.map (·.name)).Nodup) :
    Fits (.object m) (.record title form fields) ↔ ∀ f ∈ fields, Suits m f := by
  simp only [Fits, Shape.check, seq_eq_ok, checkMembers_eq_ok, forall_suits_iff distinct]
  cases RecordField.missing? fields m <;> simp

lemma fits_extensible {v : Json} {title : String} {fields : List (RecordField Shape)}
    (distinct : (fields.map (·.name)).Nodup) :
    Fits v (.record title .extensible fields) ↔
      ∃ m : Dict Json, v = .object m ∧ ∀ f ∈ fields, Suits m f := by
  cases v with
  | object m => simp [fits_members distinct]
  | _ => simp [Fits, Shape.check, Shape.wrongType]

lemma Decoder.ofValue_eq_ok {α : Type} {d : Decoder α} {v : Json} {a : α} :
    d.ofValue v = .ok a ↔ Fits v d.shape ∧ d.make v = a := by
  unfold Decoder.ofValue Fits
  cases d.shape.check v <;> simp

lemma Decoder.ofValue_of_fits {α : Type} {d : Decoder α} {v : Json} (h : Fits v d.shape) :
    d.ofValue v = .ok (d.make v) :=
  Decoder.ofValue_eq_ok.mpr ⟨h, rfl⟩

end Json

end Workspace
