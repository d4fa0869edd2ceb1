import Workspace.Json.Reader
import Workspace.Proofs.Written

/-! The layout that a text spells out: the members of each object stand in it as they do in
the text, repeated ones included. Reading a text as a value of any shape is reading its
layout and letting, of members with one key, the last stand; this holds of the faults too. -/
namespace Workspace.Json

namespace Layout

/-- A further member of an object. -/
def readMember (value : Reader Layout) (key : String) (seen : List (String × Layout)) :
    Reader (List (String × Layout)) := fun cs => do
  let (_, cs) ← readColon cs
  let (l, rest) ← value cs
  .ok (seen ++ [(key, l)], rest)

/-- Reads a layout with room for so many levels of nesting. -/
def read : Nat → Reader Layout
  | room, cs =>
    match skipSpace cs with
    | '{' :: cs =>
      match room with
      | 0 => .error (.malformed .tooDeep)
      | room + 1 => do
        let (members, rest) ← readMembers (readMember (read room)) cs.length true [] cs
        .ok (.record members, rest)
    | '[' :: cs =>
      match room with
      | 0 => .error (.malformed .tooDeep)
      | room + 1 => do
        let (items, rest) ← readItems (read room) cs.length true cs
        .ok (.list items, rest)
    | cs => do
      let (v, rest) ← readScalar cs
      .ok (.value v, rest)

/-- The layout of a text that holds nothing else. -/
def parse (text : List Char) : Except Fault Layout := do
  let (l, rest) ← read nestingLimit text
  if (skipSpace rest).isEmpty then .ok l else .error (.malformed .trailingText)

/-- No object repeats a key. -/
inductive KeysDistinct : Layout → Prop where
  | value (v : Json) : KeysDistinct (.value v)
  | list {items : List Layout} (each : ∀ l ∈ items, KeysDistinct l) :
    KeysDistinct (.list items)
  | record {members : List (String × Layout)} (distinct : (members.map Prod.fst).Nodup)
      (each : ∀ m ∈ members, KeysDistinct m.2) : KeysDistinct (.record members)

end Layout

/-! How a text goes on: with an object, a list, or neither. -/

section Openings
variable {cs inner : List Char} {room : Nat} {s : Shape}

attribute [local simp] Shape.read Layout.read

/-- What stands first is neither an object nor a list. -/
def StartsFlat (cs : List Char) : Prop :=
  ∀ inner, skipSpace cs ≠ '{' :: inner ∧ skipSpace cs ≠ '[' :: inner

lemma starts_cases (cs : List Char) : (∃ inner, skipSpace cs = '{' :: inner) ∨
    (∃ inner, skipSpace cs = '[' :: inner) ∨ StartsFlat cs := by
  by_cases object : ∃ inner, skipSpace cs = '{' :: inner
  · exact Or.inl object
  · by_cases list : ∃ inner, skipSpace cs = '[' :: inner
    · exact Or.inr (Or.inl list)
    · exact Or.inr (Or.inr fun inner => ⟨fun h => object ⟨inner, h⟩, fun h => list ⟨inner, h⟩⟩)

lemma Shape.read_object (h : skipSpace cs = '{' :: inner) :
    s.read (room + 1) cs = readObject (Shape.read room) s inner := by
  simp [h]

lemma Shape.read_object_zero (h : skipSpace cs = '{' :: inner) :
    s.read 0 cs = refuse s .object s.fitsObject := by
  simp [h]

lemma Shape.read_list (h : skipSpace cs = '[' :: inner) :
    s.read (room + 1) cs = readList (Shape.read room) s inner := by
  simp [h]

lemma Shape.read_list_zero (h : skipSpace cs = '[' :: inner) :
    s.read 0 cs = refuse s .list s.fitsList := by
  simp [h]

lemma Shape.read_flat (h : StartsFlat cs) : s.read room cs = (do
    let (v, rest) ← readScalar (skipSpace cs)
    match s.check v with
    | .ok () => .ok (v, rest)
    | .error m => .error (.mismatched m)) := by
  rw [Shape.read]
  split
  · exact absurd ‹_› (h _).1
  · exact absurd ‹_› (h _).2
  · rfl

namespace Layout

lemma read_object (h : skipSpace cs = '{' :: inner) : read (room + 1) cs = (do
    let (members, rest) ← readMembers (readMember (read room)) inner.length true [] inner
    .ok (.record members, rest)) := by
  simp [h]

lemma read_object_zero (h : skipSpace cs = '{' :: inner) :
    read 0 cs = .error (.malformed .tooDeep) := by
  simp [h]

lemma read_list (h : skipSpace cs = '[' :: inner) : read (room + 1) cs = (do
    let (items, rest) ← readItems (read room) inner.length true inner
    .ok (.list items, rest)) := by
  simp [h]

lemma read_list_zero (h : skipSpace cs = '[' :: inner) :
    read 0 cs = .error (.malformed .tooDeep) := by
  simp [h]

lemma read_flat (h : StartsFlat cs) : read room cs = (do
    let (v, rest) ← readScalar (skipSpace cs)
    .ok (.value v, rest)) := by
  rw [read]
  split
  · exact absurd ‹_› (h _).1
  · exact absurd ‹_› (h _).2
  · rfl

end Layout

end Openings

/-! What reading the parts in another way makes of the whole. -/

@[simp] lemma map_ok {α β : Type} (f : α → β) (a : α) :
    f <$> (Except.ok a : Except Fault α) = .ok (f a) := rfl

section Parts
variable {α β σ τ : Type} {steps : Nat} {first : Bool} {cs : List Char}

/-- A reader with something done to what it reads. -/
def mapReader (f : α → β) (r : Reader α) : Reader β := fun cs =>
  (fun read => (f read.1, read.2)) <$> r cs

lemma readItems_map (f : α → β) (item : Reader α) :
    readItems (mapReader f item) steps first cs =
      mapReader (List.map f) (readItems item steps first) cs := by
  induction steps generalizing first cs with
  | zero => rfl
  | succ steps ih =>
    simp only [mapReader] at ih
    simp only [readItems, mapReader, map_bind]
    refine bind_congr fun next => ?_
    cases next.1 with
    | false => rfl
    | true => simp [ih]

lemma readMembers_map {f : σ → τ} {member : String → σ → Reader σ}
    {member' : String → τ → Reader τ}
    (step : ∀ key a, member' key (f a) = mapReader f (member key a)) {a : σ} :
    readMembers member' steps first (f a) cs =
      mapReader f (readMembers member steps first a) cs := by
  induction steps generalizing first cs a with
  | zero => rfl
  | succ steps ih =>
    simp only [mapReader] at ih
    simp only [readMembers, mapReader, map_bind]
    refine bind_congr fun next => ?_
    cases next.1 with
    | none => rfl
    | some key => simp [step, mapReader, ih]

end Parts

/-! Values and layouts. -/

namespace Layout

lemma itemValues_eq (items : List Layout) : itemValues items = items.map toJson := by
  induction items with
  | nil => rfl
  | cons l rest ih => simp [itemValues, ih]

/-- The dictionary that the members make up. -/
def merged (members : List (String × Layout)) : Dict Json := Dict.ofList (memberValues members)

lemma merged_concat (members : List (String × Layout)) (key : String) (l : Layout) :
    merged (members ++ [(key, l)]) = (merged members).insert key l.toJson := by
  simp [merged, memberValues_eq, Dict.ofList, List.foldl_append]

lemma dictMember_map (value : Reader Layout) (key : String) (seen : List (String × Layout)) :
    dictMember (mapReader toJson value) key (merged seen) =
      mapReader merged (readMember value key seen) := by
  funext cs
  simp [dictMember, readMember, mapReader, merged_concat]

lemma read_any_flat {room : Nat} {cs : List Char} (h : StartsFlat cs) :
    Shape.read room .any cs = mapReader toJson (read room) cs := by
  rw [Shape.read_flat h, mapReader, read_flat h]
  simp [Shape.check, toJson]

/-- Reading a value is reading a layout and merging its members. -/
theorem read_any (room : Nat) : Shape.read room .any = mapReader toJson (read room) := by
  induction room with
  | zero =>
    funext cs
    rcases starts_cases cs with ⟨inner, h⟩ | ⟨inner, h⟩ | h
    · rw [Shape.read_object_zero h, mapReader, read_object_zero h]
      rfl
    · rw [Shape.read_list_zero h, mapReader, read_list_zero h]
      rfl
    · exact read_any_flat h
  | succ room ih =>
    funext cs
    rcases starts_cases cs with ⟨inner, h⟩ | ⟨inner, h⟩ | h
    · rw [Shape.read_object h, readObject, ih, show Dict.empty = merged [] from rfl,
        readMembers_map (dictMember_map (read room)), mapReader, mapReader, read_object h]
      simp [toJson, merged, ofMembers]
    · rw [Shape.read_list h, readList, ih, readItems_map, mapReader, mapReader, read_list h]
      simp [toJson, itemValues_eq]
    · exact read_any_flat h

/-- The value of a text is that of its layout. -/
theorem parse_any (text : List Char) : Shape.any.parse text = toJson <$> parse text := by
  rw [Shape.parse, read_any, parse, mapReader]
  simp only [map_bind, bind_map_left]
  refine bind_congr fun read => ?_
  split <;> rfl

end Layout

end Workspace.Json
