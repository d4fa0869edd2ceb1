import Mathlib.Tactic.Lemma
import Workspace.Dict.Lemmas
import Workspace.Environment

/-! What is held, as a value, by a record that is written: under each key the last member
with it. A record that writes what a value holds under the keys of its fields, and after
that the value less these keys, is the value. -/
namespace Workspace

namespace Json.Layout

/-- What a record of these members holds under a key. -/
def held (members : List (String × Layout)) (key : String) : Option Json :=
  (Dict.ofList (memberValues members)).get? key

lemma memberValues_eq (members : List (String × Layout)) :
    memberValues members = members.map fun m => (m.1, m.2.toJson) := by
  induction members with
  | nil => rfl
  | cons m rest ih => simp [memberValues, ih]

lemma toJson_record (members : List (String × Layout)) (m : Dict Json)
    (h : ∀ k, held members k = m.get? k) : (record members).toJson = .object m := by
  rw [toJson, ofMembers, Json.object.injEq]
  exact Chain.ext_get? h

lemma held_append (xs ys : List (String × Layout)) (k : String) :
    held (xs ++ ys) k = (held ys k).or (held xs k) := by
  simp only [held, memberValues_eq, List.map_append, Dict.get?_ofList_append]

@[simp] lemma held_nil (k : String) : held [] k = none := rfl

@[simp] lemma held_singleton (key : String) (l : Layout) (k : String) :
    held [(key, l)] k = if k = key then some l.toJson else none := by
  simp only [held, memberValues, Dict.ofList, List.foldl_cons, List.foldl_nil,
    Dict.get?_insert]
  rfl

/-- Of the entries of a dictionary, each written by itself. -/
lemma held_toList {α : Type} (m : Dict α) (f : α → Layout) (k : String) :
    held (m.toList.map fun e => (e.1, f e.2)) k = (m.get? k).map fun a => (f a).toJson := by
  have entries : (m.toList.map fun e => (e.1, f e.2)).map (fun e => (e.1, e.2.toJson)) =
      (m.mapValues fun a => (f a).toJson).toList := by
    simp [Chain.toList_mapValues]
  rw [held, memberValues_eq, entries, Dict.get?_ofList_toList, Chain.get?_mapValues]

@[simp] lemma held_members (m : Dict Json) (k : String) : held (members m) k = m.get? k := by
  rw [members, held_toList]
  cases m.get? k <;> rfl

/-- The members hold, under these keys, what the dictionary does, and nothing else. -/
def Restores (m : Dict Json) (keys : List String) (known : List (String × Layout)) : Prop :=
  ∀ k, held known k = if k ∈ keys then m.get? k else none

namespace Restores
variable {m : Dict Json} {keys keys' : List String} {xs ys : List (String × Layout)}

lemma of_key {key : String}
    (h : ∀ k, held xs k = if k = key then m.get? key else none) : Restores m [key] xs := by
  intro k
  rw [h]
  by_cases hk : k = key
  · simp [hk]
  · simp [hk]

lemma singleton {key : String} {l : Layout} (h : m.get? key = some l.toJson) :
    Restores m [key] [(key, l)] :=
  of_key fun k => by rw [held_singleton, h]

lemma append (hx : Restores m keys xs) (hy : Restores m keys' ys) :
    Restores m (keys ++ keys') (xs ++ ys) := by
  intro k
  rw [held_append, hx, hy]
  by_cases hk : k ∈ keys <;> by_cases hk' : k ∈ keys' <;> simp [hk, hk']

/-- Of a value split into fields and the rest, the fields with the rest after them. -/
lemma toJson_record (h : Restores m keys xs) :
    (record (xs ++ members (m.without keys))).toJson = .object m := by
  apply Layout.toJson_record
  intro k
  rw [held_append, held_members, Dict.get?_without, h]
  by_cases hk : k ∈ keys <;> simp [hk]

end Restores

end Json.Layout

open Json.Layout

namespace Presence
variable {α : Type}

/-- What stands under the key of the member. -/
def written (f : α → Json) : Presence α → Option Json
  | .absent => none
  | .null => some .null
  | .set a => some (f a)

@[simp] lemma held_member (key : String) (f : α → Json) (p : Presence α) (k : String) :
    held (p.member key f) k = if k = key then p.written f else none := by
  cases p <;> simp [member, written, Json.Layout.toJson]

/-- A member is written as it was read if what it is set to is. -/
lemma restores {m : Dict Json} {key : String} {f : Json → α} {g : α → Json}
    (h : ∀ v, m.get? key = some v → v ≠ .null → g (f v) = v) :
    Restores m [key] ((ofMember m key f).member key g) := by
  have same : (ofMember m key f).written g = m.get? key := by
    unfold ofMember
    split <;> rename_i hv
    · rw [hv]; rfl
    · rw [hv]; rfl
    · rename_i v hnull
      rw [hv, written, h v hv hnull]
  exact Restores.of_key fun k => by rw [held_member, same]

end Presence

end Workspace
