import Workspace.Proofs.TextReading

/-! How deep values and layouts are nested. What was read under a limit is nested within it,
and so is its value; a layout that repeats no key is nested no deeper than its value, as
every member of it can be found there. -/
namespace Workspace.Json

/-- Lists and objects are nested no deeper than this. -/
def Within : Nat → Json → Prop
  | 0, .list _ | 0, .object _ => False
  | room + 1, .list items => ∀ x ∈ items, Within room x
  | room + 1, .object m => ∀ k x, m.get? k = some x → Within room x
  | _, _ => True

lemma within_flat (room : Nat) {v : Json} (noList : ∀ items, v ≠ .list items)
    (noObject : ∀ m, v ≠ .object m) : v.Within room := by
  cases v with
  | list items => exact absurd rfl (noList items)
  | object m => exact absurd rfl (noObject m)
  | _ => cases room <;> exact trivial

lemma Within.succ {room : Nat} {v : Json} (h : v.Within room) : v.Within (room + 1) := by
  induction room generalizing v with
  | zero =>
    cases v with
    | list | object => exact absurd h id
    | _ => exact trivial
  | succ room ih =>
    cases v with
    | list items => exact fun x hx => ih (h x hx)
    | object m => exact fun k x hx => ih (h k x hx)
    | _ => exact trivial

namespace Layout

/-- Likewise, of a layout. -/
def Within : Nat → Layout → Prop
  | room, .value v => v.Within room
  | 0, .list _ | 0, .record _ => False
  | room + 1, .list items => ∀ l ∈ items, Within room l
  | room + 1, .record members => ∀ m ∈ members, Within room m.2

variable {room : Nat} {l : Layout} {cs rest : List Char}

lemma within_value_iff {v : Json} : (Layout.value v).Within room ↔ v.Within room := by
  rw [Within.eq_def]

lemma exists_of_get?_merged {members : List (String × Layout)} {k : String} {x : Json}
    (h : (merged members).get? k = some x) : ∃ m ∈ members, m.2.toJson = x := by
  rw [merged, Dict.get?_ofList, memberValues_eq, Option.map_eq_some_iff] at h
  obtain ⟨e, he, rfl⟩ := h
  have mem := List.mem_of_find?_eq_some he
  rw [List.mem_reverse, List.mem_map] at mem
  obtain ⟨m, hm, rfl⟩ := mem
  exact ⟨m, hm, rfl⟩

/-- The value of a layout is nested no deeper. -/
lemma Within.toJson (h : l.Within room) : l.toJson.Within room := by
  induction room generalizing l with
  | zero =>
    cases l with
    | value v => exact within_value_iff.mp h
    | list | record => exact absurd h id
  | succ room ih =>
    cases l with
    | value v => exact within_value_iff.mp h
    | list items =>
      intro x hx
      rw [itemValues_eq, List.mem_map] at hx
      obtain ⟨l, hl, rfl⟩ := hx
      exact ih (h l hl)
    | record members =>
      intro k x hx
      obtain ⟨m, hm, rfl⟩ := exists_of_get?_merged hx
      exact ih (h m hm)

/-- Where no key is repeated nothing of the layout is lost in its value. -/
lemma KeysDistinct.within (distinct : l.KeysDistinct) (h : l.toJson.Within room) :
    l.Within room := by
  induction room generalizing l with
  | zero =>
    cases l with
    | value v => exact within_value_iff.mpr h
    | list | record => exact absurd h id
  | succ room ih =>
    cases distinct with
    | value v => exact within_value_iff.mpr h
    | list each =>
      intro l hl
      refine ih (each l hl) (h _ ?_)
      rw [itemValues_eq]
      exact List.mem_map_of_mem hl
    | record distinct each =>
      intro m hm
      exact ih (each m hm) (h m.1 _ (get?_merged distinct hm))

lemma within_of_readScalar (room : Nat) {v : Json} (h : readScalar cs = .ok (v, rest)) :
    v.Within room := by
  cases cs with
  | nil => cases h
  | cons c cs =>
    simp only [readScalar] at h
    split_ifs at h
    all_goals
      obtain ⟨read, _, hv⟩ := bind_eq_ok.mp h
      cases hv
      exact within_flat room (by simp) (by simp)

lemma readItems_within {item : Reader Layout} {steps : Nat} {first : Bool} {items : List Layout}
    (each : ∀ cs l rest, item cs = .ok (l, rest) → l.Within room)
    (h : readItems item steps first cs = .ok (items, rest)) : ∀ l ∈ items, l.Within room := by
  have step : ∀ cs l rest, True → item cs = .ok (l, rest) →
      ∃ l', item cs = .ok (l', rest) ∧ l.Within room ∧ l = l' :=
    fun cs l rest _ read => ⟨l, read, each cs l rest read, rfl⟩
  obtain ⟨items', _, both⟩ := readItems_sim step (fun _ _ => trivial) h
  exact ((List.forall₂_and_left items items').mp both).1

lemma readMembers_within {value : Reader Layout} {steps : Nat} {first : Bool}
    {members : List (String × Layout)}
    (each : ∀ cs l rest, value cs = .ok (l, rest) → l.Within room)
    (h : readMembers (readMember value) steps first [] cs = .ok (members, rest)) :
    ∀ m ∈ members, m.2.Within room := by
  have step : ∀ key seen seen₀ cs seen' rest, True →
      (seen = seen₀ ∧ ∀ m ∈ seen, m.2.Within room) →
      readMember value key seen cs = .ok (seen', rest) →
      ∃ seen₁, readMember value key seen₀ cs = .ok (seen₁, rest) ∧
        seen' = seen₁ ∧ ∀ m ∈ seen', m.2.Within room := by
    rintro key seen _ cs seen' rest - ⟨rfl, good⟩ read
    obtain ⟨⟨_, cs'⟩, _, further⟩ := bind_eq_ok.mp read
    obtain ⟨⟨l, rest'⟩, hl, same⟩ := bind_eq_ok.mp further
    cases same
    refine ⟨_, read, rfl, fun m hm => ?_⟩
    rcases List.mem_append.mp hm with hm | hm
    · exact good m hm
    · obtain rfl := List.mem_singleton.mp hm
      exact each cs' l _ hl
  obtain ⟨_, _, _, good⟩ := readMembers_sim (fun _ _ _ _ _ _ _ => trivial) step trivial
    ⟨rfl, by simp⟩ h
  exact good

/-- What is read with so much room is nested within it. -/
lemma within_of_read (h : read room cs = .ok (l, rest)) : l.Within room := by
  induction room generalizing l cs rest with
  | zero =>
    rcases starts_cases cs with ⟨inner, start⟩ | ⟨inner, start⟩ | start
    · rw [read_object_zero start] at h
      cases h
    · rw [read_list_zero start] at h
      cases h
    · obtain ⟨v, rfl, scalar⟩ := (read_flat_eq_ok start).mp h
      exact within_value_iff.mpr (within_of_readScalar 0 scalar)
  | succ room ih =>
    rcases starts_cases cs with ⟨inner, start⟩ | ⟨inner, start⟩ | start
    · rw [read_object start] at h
      obtain ⟨⟨members, rest'⟩, hmembers, h⟩ := bind_eq_ok.mp h
      cases h
      exact readMembers_within (fun _ _ _ => ih) hmembers
    · rw [read_list start] at h
      obtain ⟨⟨items, rest'⟩, hitems, h⟩ := bind_eq_ok.mp h
      cases h
      exact readItems_within (fun _ _ _ => ih) hitems
    · obtain ⟨v, rfl, scalar⟩ := (read_flat_eq_ok start).mp h
      exact within_value_iff.mpr (within_of_readScalar (room + 1) scalar)

end Layout

/-- The value of a text is nested within the limit. -/
theorem within_of_parse {text : List Char} {v : Json} (h : Shape.any.parse text = .ok v) :
    v.Within nestingLimit := by
  obtain ⟨rest, read, _⟩ := parse_eq_ok.mp h
  rw [Layout.read_any, mapReader] at read
  cases outline : Layout.read nestingLimit text with
  | error f =>
    rw [outline] at read
    cases read
  | ok r =>
    rw [outline, map_ok] at read
    cases read
    exact (Layout.within_of_read outline).toJson

end Workspace.Json
