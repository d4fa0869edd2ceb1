import Workspace.Dict

/-! What each operation on a dictionary does to its look-up, and that a dictionary is
determined by its look-up. -/
namespace Workspace
variable {α β : Type} {lo : Option String}

/-- Where no key is repeated, an entry is the only one with its key. -/
theorem filter_eq_singleton {key : α → String} {l : List α} (distinct : (l.map key).Nodup)
    {a : α} (h : a ∈ l) : l.filter (fun b => key b == key a) = [a] := by
  induction l with
  | nil => cases h
  | cons b l ih =>
    rw [List.map_cons, List.nodup_cons] at distinct
    rcases List.mem_cons.mp h with rfl | h
    · have rest : l.filter (fun c => key c == key a) = [] := by
        rw [List.filter_eq_nil_iff]
        intro c hc same
        exact distinct.1 (List.mem_map.mpr ⟨c, hc, by simpa using same⟩)
      simp [rest]
    · have hne : key b ≠ key a := fun same => distinct.1 (List.mem_map.mpr ⟨a, h, same.symm⟩)
      simpa [hne] using ih distinct.2 h

namespace Chain

theorem get?_eq_none_of_not_above (m : Chain α lo) {k : String} (h : ¬ Above lo k) :
    m.get? k = none := by
  induction m with
  | nil => rfl
  | @cons lo key above value rest ih =>
    have hne : k ≠ key := fun e => h (e ▸ above)
    have hlt : ¬ Above (some key) k := fun hk => h (Above.trans above hk)
    simp [get?, hne, ih hlt]

theorem get?_rest_self {key : String} (rest : Chain α (some key)) : rest.get? key = none :=
  get?_eq_none_of_not_above rest (String.lt_irrefl key)

/-- A key below the first one is not there. -/
theorem get?_cons_of_lt {key k : String} {above : Above lo key} {value : α}
    {rest : Chain α (some key)} (h : k < key) : (cons key above value rest).get? k = none := by
  have absent : rest.get? k = none := get?_eq_none_of_not_above rest (String.lt_asymm h)
  simp [get?, Std.ne_of_lt h, absent]

theorem get?_put (m : Chain α lo) (k : String) (h : Above lo k) (v : α) (k' : String) :
    (m.put k h v).get? k' = if k' = k then some v else m.get? k' := by
  induction m with
  | nil => simp [put, get?]
  | cons key above value rest ih =>
    unfold put
    split
    · rename_i here
      subst here
      simp only [get?]
      split <;> simp_all
    · rename_i here
      split
      · rfl
      · simp only [get?]
        by_cases e : k' = key
        · subst e; simp [Ne.symm here]
        · simpa [e] using ih _

theorem get?_lower {low : String} (h : Above lo low) (m : Chain α (some low)) (k : String) :
    (m.lower h).get? k = m.get? k := by
  cases m <;> rfl

theorem get?_erase (m : Chain α lo) (k k' : String) :
    (m.erase k).get? k' = if k' = k then none else m.get? k' := by
  induction m with
  | nil => simp [erase, get?]
  | cons key above value rest ih =>
    unfold erase
    split
    · rename_i here
      subst here
      simp only [get?_lower, get?]
      by_cases e : k' = k
      · subst e
        simpa using get?_rest_self rest
      · simp [e]
    · rename_i here
      simp only [get?, ih]
      by_cases e : k' = key
      · subst e; simp [Ne.symm here]
      · simp [e]

theorem get?_mapValues (f : α → β) (m : Chain α lo) (k : String) :
    (m.mapValues f).get? k = (m.get? k).map f := by
  induction m with
  | nil => rfl
  | cons key above value rest ih =>
    simp only [mapValues, get?, ih]
    split <;> rfl

theorem mem_toList (m : Chain α lo) (k : String) (v : α) :
    (k, v) ∈ m.toList ↔ m.get? k = some v := by
  induction m with
  | nil => simp [toList, get?]
  | cons key above value rest ih =>
    simp only [toList, List.mem_cons, Prod.mk.injEq, ih, get?]
    by_cases h : k = key
    · subst h
      simp [get?_rest_self rest, eq_comm]
    · simp [h]

theorem isEmpty_iff {m : Chain α lo} : m.isEmpty = true ↔ m = .nil := by
  cases m <;> simp [isEmpty]

theorem toList_mapValues (f : α → β) (m : Chain α lo) :
    (m.mapValues f).toList = m.toList.map fun e => (e.1, f e.2) := by
  induction m with
  | nil => rfl
  | cons key above value rest ih => simp [mapValues, toList, ih]

theorem above_of_mem {m : Chain α lo} {e : String × α} (h : e ∈ m.toList) : Above lo e.1 := by
  induction m with
  | nil => cases h
  | cons key above value rest ih =>
    rcases List.mem_cons.mp h with rfl | h
    · exact above
    · exact above.trans (ih h)

/-- The entries stand in ascending order. -/
theorem pairwise_toList (m : Chain α lo) : m.toList.Pairwise fun e f => e.1 < f.1 := by
  induction m with
  | nil => exact .nil
  | cons key above value rest ih => exact .cons (fun _ h => above_of_mem h) ih

/-- Another value for a key that is there takes the place of the old one. -/
theorem toList_put {m : Chain α lo} {k : String} {h : Above lo k} (there : m.get? k ≠ none)
    (v : α) : (m.put k h v).toList = m.toList.map fun e => if e.1 = k then (e.1, v) else e := by
  induction m with
  | nil => exact absurd rfl there
  | @cons lo key above value rest ih =>
    unfold put
    split
    · rename_i here
      subst here
      have others : rest.toList.map (fun e => if e.1 = k then (e.1, v) else e) = rest.toList := by
        refine (List.map_congr_left fun e he => if_neg ?_).trans (List.map_id' _)
        rintro rfl
        exact String.lt_irrefl _ (above_of_mem he)
      simp [toList, others]
    · rename_i here
      split
      · rename_i before
        exact absurd (get?_cons_of_lt before) there
      · have there : rest.get? k ≠ none := by simpa [get?, here] using there
        simpa [toList, Ne.symm here] using ih there

theorem nodup_keys (m : Chain α lo) : m.keys.Nodup :=
  List.pairwise_map.mpr (m.pairwise_toList.imp Std.ne_of_lt)

/-- What holds of every entry holds of the first and of every further one. -/
theorem forall_get?_cons {key : String} {above : Above lo key} {a : α}
    {rest : Chain α (some key)} {P : String → α → Prop} :
    (∀ k b, (cons key above a rest).get? k = some b → P k b) ↔
      P key a ∧ ∀ k b, rest.get? k = some b → P k b := by
  constructor
  · intro h
    refine ⟨h key a (by simp [get?]), ?_⟩
    intro k b hb
    have hne : k ≠ key := by rintro rfl; rw [get?_rest_self] at hb; cases hb
    exact h k b (by simpa [get?, hne] using hb)
  · rintro ⟨head, tail⟩ k b hb
    by_cases hk : k = key
    · subst hk
      obtain rfl : a = b := by simpa [get?] using hb
      exact head
    · exact tail k b (by simpa [get?, hk] using hb)

/-- Chains with the same keys begin with the same one, under whichever bounds they stand. -/
theorem first_key_eq {lo' : Option String} {key key' : String} {above : Above lo key}
    {above' : Above lo' key'} {a a' : α} {rest : Chain α (some key)} {rest' : Chain α (some key')}
    (h : ∀ k, (cons key above a rest).contains k = (cons key' above' a' rest').contains k) :
    key = key' := by
  rcases Std.lt_trichotomy key key' with hlt | heq | hgt
  · have missing := h key
    rw [contains, contains, get?_cons_of_lt hlt] at missing
    simp [get?] at missing
  · exact heq
  · have missing := h key'
    rw [contains, contains, get?_cons_of_lt hgt] at missing
    simp [get?] at missing

/-- Two chains under one bound with the same look-up are equal. -/
theorem ext_get? {m m' : Chain α lo} (h : ∀ k, m.get? k = m'.get? k) : m = m' := by
  induction m with
  | nil =>
    cases m' with
    | nil => rfl
    | cons key above value rest => simpa [get?] using h key
  | @cons lo key above value rest ih =>
    cases m' with
    | nil => simpa [get?] using h key
    | cons key' above' value' rest' =>
      have hk : key = key' := first_key_eq fun k => congrArg Option.isSome (h k)
      subst hk
      have hv : value = value' := by simpa [get?] using h key
      subst hv
      have hr : rest = rest' := by
        apply ih
        intro k
        by_cases e : k = key
        · subst e
          rw [get?_rest_self, get?_rest_self]
        · simpa [get?, e] using h k
      rw [hr]

end Chain

namespace Dict

theorem get?_insert (m : Dict α) (k : String) (v : α) (k' : String) :
    (m.insert k v).get? k' = if k' = k then some v else m.get? k' :=
  Chain.get?_put m k trivial v k'

theorem toList_insert {m : Dict α} {k : String} (there : m.get? k ≠ none) (v : α) :
    (m.insert k v).toList = m.toList.map fun e => if e.1 = k then (e.1, v) else e :=
  Chain.toList_put there v

/-- The value of a key is that of the last entry with it. -/
theorem get?_ofList (entries : List (String × α)) (k : String) :
    (ofList entries).get? k = (entries.reverse.find? fun e => e.1 == k).map Prod.snd := by
  suffices ∀ m : Dict α, (entries.foldl (fun m e => m.insert e.1 e.2) m).get? k =
      ((entries.reverse.find? fun e => e.1 == k).map Prod.snd).or (m.get? k) by
    simpa [ofList, empty, Chain.get?] using this empty
  induction entries with
  | nil => simp
  | cons e entries ih =>
    intro m
    simp only [List.foldl_cons, ih, get?_insert, List.reverse_cons, List.find?_append]
    cases h : entries.reverse.find? fun e => e.1 == k with
    | some x => simp
    | none =>
      by_cases hk : k = e.1
      · simp [hk]
      · simp [hk, Ne.symm hk]

theorem get?_ofList_append (entries entries' : List (String × α)) (k : String) :
    (ofList (entries ++ entries')).get? k =
      ((ofList entries').get? k).or ((ofList entries).get? k) := by
  simp only [get?_ofList, List.reverse_append, List.find?_append, Option.map_or]

theorem get?_ofList_eq_none {entries : List (String × α)} {k : String}
    (h : k ∉ entries.map Prod.fst) : (ofList entries).get? k = none := by
  rw [get?_ofList, Option.map_eq_none_iff, List.find?_eq_none]
  intro e he
  rw [List.mem_reverse] at he
  simp only [beq_iff_eq]
  rintro rfl
  exact h (List.mem_map_of_mem he)

/-- Where no key is repeated, every entry is found. -/
theorem get?_ofList_of_mem {entries : List (String × α)} (distinct : (entries.map Prod.fst).Nodup)
    {e : String × α} (h : e ∈ entries) : (ofList entries).get? e.1 = some e.2 := by
  rw [get?_ofList, ← List.head?_filter, List.filter_reverse, filter_eq_singleton distinct h]
  rfl

theorem get?_ofList_toList (m : Dict α) (k : String) :
    (ofList m.toList).get? k = m.get? k := by
  rw [get?_ofList]
  cases h : m.toList.reverse.find? fun e => e.1 == k with
  | some e =>
    have mem : (e.1, e.2) ∈ m.toList := List.mem_reverse.mp (List.mem_of_find?_eq_some h)
    have key : e.1 = k := by simpa using List.find?_some h
    rw [← key]
    exact ((Chain.mem_toList m e.1 e.2).mp mem).symm
  | none =>
    cases hv : m.get? k with
    | none => rfl
    | some v =>
      have mem := List.mem_reverse.mpr ((Chain.mem_toList m k v).mpr hv)
      simpa using List.find?_eq_none.mp h _ mem

/-- The entries of a dictionary make it up again. -/
theorem ofList_toList (m : Dict α) : ofList m.toList = m :=
  Chain.ext_get? (get?_ofList_toList m)

theorem get?_without (m : Dict α) (keys : List String) (k : String) :
    (m.without keys).get? k = if k ∈ keys then none else m.get? k := by
  unfold without
  induction keys generalizing m with
  | nil => simp
  | cons key keys ih =>
    simp only [List.foldl_cons, ih, Chain.get?_erase, List.mem_cons]
    split <;> simp_all

end Dict

end Workspace
