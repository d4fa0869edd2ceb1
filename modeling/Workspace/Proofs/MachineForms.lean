import Workspace.Machine
import Workspace.Proofs.Accepted
import Workspace.Proofs.Reload

/-! Machines as values. A machine is written as an object with all of its fields, and may also be
found as an object without some of them or as the list of its fields in order. A list stands for
the object of its items under the names of the fields, so whatever form a machine is found in, it
is one machine, and it is read again from the object it is written as. -/
namespace Workspace
open Json Json.Layout

/-! Records that may be written as lists. -/

namespace Json
variable {m m' : Dict Json} {f : RecordField Shape} {title : String}
  {fields : List (RecordField Shape)} {items : List Json}

/-- The members that a list of the fields in order stands for. -/
def byName (fields : List (RecordField Shape)) (items : List Json) : Dict Json :=
  Dict.ofList ((fields.map RecordField.name).zip items)

lemma suits_congr (same : m.get? f.name = m'.get? f.name) : Suits m f ↔ Suits m' f := by
  unfold Suits
  rw [same]

lemma suits_optional {key : String} {s : Shape} :
    Suits m ⟨key, .optional, s⟩ ↔ ∀ v, m.get? key = some v → Fits v s := by
  unfold Suits
  cases m.get? key with
  | none => simp
  | some v => cases v <;> simp [FitsField, RecordField.allows]

lemma get?_byName_cons (v : Json) (key : String) :
    (byName (f :: fields) (v :: items)).get? key =
      ((byName fields items).get? key).or (if key = f.name then some v else none) := by
  have split : byName (f :: fields) (v :: items) =
      Dict.ofList ([(f.name, v)] ++ (fields.map RecordField.name).zip items) := rfl
  rw [split, Dict.get?_ofList_append]
  rfl

lemma get?_byName_eq_none {key : String} (h : key ∉ fields.map RecordField.name) :
    (byName fields items).get? key = none := by
  refine Dict.get?_ofList_eq_none fun mem => h ?_
  obtain ⟨e, he, rfl⟩ := List.mem_map.mp mem
  exact (List.of_mem_zip he).1

lemma checkFields_eq_ok {seen : Nat} (distinct : (fields.map (·.name)).Nodup) :
    Shape.checkFields items seen title fields = .ok () ↔
      items.length ≤ fields.length ∧ ∀ f ∈ fields, Suits (byName fields items) f := by
  induction items generalizing fields seen with
  | nil =>
    have none (f : RecordField Shape) : Suits (byName fields []) f ↔ f.need ≠ .required := by
      unfold Suits
      rw [byName, List.zip_nil_right]
      rfl
    simp only [none, Shape.checkFields]
    split <;> simp_all
  | cons v items ih =>
    cases fields with
    | nil => simp [Shape.checkFields]
    | cons f fields =>
      rw [List.map_cons, List.nodup_cons] at distinct
      have first : Suits (byName (f :: fields) (v :: items)) f ↔ FitsField v f := by
        unfold Suits
        rw [get?_byName_cons, get?_byName_eq_none distinct.1]
        simp
      have further : ∀ g ∈ fields,
          (Suits (byName (f :: fields) (v :: items)) g ↔ Suits (byName fields items) g) := by
        intro g hg
        refine suits_congr ?_
        have other : g.name ≠ f.name := fun same => distinct.1 (same ▸ List.mem_map_of_mem hg)
        rw [get?_byName_cons, if_neg other, Option.or_none]
      rw [List.forall_mem_cons, first, forall₂_congr further, Shape.checkFields]
      by_cases allowed : f.allows v = true
      · simp [allowed, FitsField, ih distinct.2]
      · simp [allowed, FitsField, Fits, seq_eq_ok, ih distinct.2, and_left_comm]

/-- A list fits a record just if it has no more items than there are fields, and the object of its
items under the names of the fields fits. -/
lemma fits_positional (distinct : (fields.map (·.name)).Nodup) :
    Fits (.list items) (.record title .positional fields) ↔
      items.length ≤ fields.length ∧
        Fits (.object (byName fields items)) (.record title .positional fields) := by
  rw [fits_members distinct, ← checkFields_eq_ok distinct]
  rfl

end Json

/-- The members of a machine. Those that may be left out may not be null. -/
structure MachineMembers (d : Dict Json) : Prop where
  name : ∃ s, d.get? "name" = some (.string s)
  recipe : ∃ r : Dict Json, d.get? "recipe" = some (.object r) ∧ RecipeMembers r
  attributes : ∀ v, d.get? "attributes" = some v → IsObject v
  agents : ∀ v, d.get? "agents" = some v → IsListOf IsText v
  servers : ∀ v, d.get? "servers" = some v → IsRecord (Each IsObject) v

namespace Machine
variable {m : Machine} {d : Dict Json} {items : List Json} {v : Json}

/-- The keys of the fields in their order. -/
def keys : List String := ["name", "recipe", "attributes", "agents", "servers"]

lemma fits_object : Fits (.object d) shape ↔ MachineMembers d := by
  rw [shape, fits_members (by decide)]
  simp only [List.forall_mem_cons, List.not_mem_nil, false_implies, implies_true, and_true,
    suits_required, suits_optional, fits_string, Workspace.fits_object, fits_agents, fits_servers,
    fits_recipe_iff]
  constructor
  · rintro ⟨⟨_, name, s, rfl⟩, ⟨_, recipe, r, rfl, known⟩, attributes, agents, servers⟩
    exact ⟨⟨s, name⟩, ⟨r, recipe, known⟩, attributes, agents, servers⟩
  · rintro ⟨⟨s, name⟩, ⟨r, recipe, known⟩, attributes, agents, servers⟩
    exact ⟨⟨_, name, s, rfl⟩, ⟨_, recipe, r, rfl, known⟩, attributes, agents, servers⟩

lemma fits_list : Fits (.list items) shape ↔
    items.length ≤ 5 ∧ Fits (.object (Dict.ofList (keys.zip items))) shape :=
  fits_positional (by decide)

/-- A machine is found as an object, or as a list of as many items as it must have fields, and as it
may have. -/
lemma cases_of_fits (h : Fits v shape) : (∃ d, v = .object d ∧ MachineMembers d) ∨
    ∃ items, v = .list items ∧ 2 ≤ items.length ∧ items.length ≤ 5 := by
  cases v with
  | object d => exact Or.inl ⟨d, rfl, fits_object.mp h⟩
  | list items =>
    obtain ⟨short, fits⟩ := fits_list.mp h
    obtain ⟨r, recipe, _⟩ := (fits_object.mp fits).recipe
    refine Or.inr ⟨items, rfl, ?_, short⟩
    by_contra few
    have missing : "recipe" ∉ (keys.zip items).map Prod.fst := by
      rcases items with _ | ⟨name, _ | ⟨recipe, rest⟩⟩
      · simp
      · simp [keys]
      · simp at few
    rw [Dict.get?_ofList_eq_none missing] at recipe
    cases recipe
  | _ => cases h

/-- A list is made the machine that the object of its items is. -/
lemma ofValue_list : decoder.ofValue (.list items) = .ok m ↔
    items.length ≤ 5 ∧ decoder.ofValue (.object (Dict.ofList (keys.zip items))) = .ok m := by
  have same : ofJson (.list items) = ofJson (.object (Dict.ofList (keys.zip items))) := rfl
  have fits : Fits (.list items) decoder.shape ↔
      items.length ≤ 5 ∧ Fits (.object (Dict.ofList (keys.zip items))) decoder.shape := fits_list
  rw [Decoder.ofValue_eq_ok, Decoder.ofValue_eq_ok, fits, and_assoc]
  exact Iff.rfl

/-! What is written of a machine is read again. -/

/-- The fields as they are written. -/
def written (m : Machine) : List (String × Layout) :=
  [("name", .string m.name), ("recipe", m.recipe.layout),
    ("attributes", .value (.object m.attributes)), ("agents", .value m.agents.toJson),
    ("servers", .value m.servers.toJson)]

lemma get?_written (m : Machine) :
    ∀ f ∈ m.written, (merged m.written).get? f.1 = some f.2.toJson := by
  have distinct : (m.written.map Prod.fst).Nodup := show keys.Nodup by decide
  exact fun f hf => get?_merged distinct hf

lemma members_written (h : m.recipe.WellFormed) : MachineMembers (merged m.written) := by
  have stored := m.get?_written
  generalize merged m.written = d at stored
  simp only [written, List.forall_mem_cons] at stored
  obtain ⟨name, recipe, attributes, agents, servers, _⟩ := stored
  obtain ⟨r, made, known⟩ := fits_recipe_iff.mp (Recipe.fits_toJson h)
  refine ⟨⟨_, name⟩, ⟨r, made ▸ recipe, known⟩, fun v hv => ?_, fun v hv => ?_, fun v hv => ?_⟩
  · obtain rfl := Option.some.inj (attributes.symm.trans hv)
    exact ⟨_, rfl⟩
  · obtain rfl := Option.some.inj (agents.symm.trans hv)
    exact fits_agents.mp m.agents.fits_toJson
  · obtain rfl := Option.some.inj (servers.symm.trans hv)
    exact fits_servers.mp m.servers.fits_toJson

lemma ofJson_toJson (h : m.recipe.WellFormed) : ofJson m.layout.toJson = m := by
  have members : fieldsOf shape m.layout.toJson = merged m.written := rfl
  have stored := m.get?_written
  rw [ofJson, members]
  generalize merged m.written = d at stored
  simp only [written, List.forall_mem_cons, Layout.string, Layout.toJson] at stored
  obtain ⟨name, recipe, attributes, agents, servers, _⟩ := stored
  simp only [name, recipe, attributes, agents, servers, Option.getD_some, asString, asString?,
    asDict, Recipe.ofJson_toJson h, Agents.ofJson_toJson, Servers.ofJson_toJson]

lemma ofValue_toJson (h : m.recipe.WellFormed) : decoder.ofValue m.layout.toJson = .ok m :=
  Decoder.ofValue_eq_ok.mpr ⟨fits_object.mpr (members_written h), ofJson_toJson h⟩

/-- A machine whose recipe is well formed is read again from the value it is written as. Whatever a
machine is made of, be it an object with the members of one or a list of two to five items, the
machine is read again; and a list of so many items is made the machine that the object is in which
they stand under the first keys. -/
theorem ofValue_forms :
    (∀ m : Machine, m.recipe.WellFormed → decoder.ofValue m.layout.toJson = .ok m) ∧
    (∀ v m, decoder.ofValue v = .ok m →
      ((∃ d, v = .object d ∧ MachineMembers d) ∨
        ∃ items, v = .list items ∧ 2 ≤ items.length ∧ items.length ≤ 5) ∧
      decoder.ofValue m.layout.toJson = .ok m) ∧
    (∀ d, MachineMembers d → ∃ m, decoder.ofValue (.object d) = .ok m) ∧
    ∀ items : List Json, 2 ≤ items.length → items.length ≤ 5 → ∀ m,
      decoder.ofValue (.list items) = .ok m ↔
        decoder.ofValue (.object (Dict.ofList (keys.zip items))) = .ok m := by
  refine ⟨fun m => ofValue_toJson, ?again, ?accepted, ?positional⟩
  case again =>
    intro v m decoded
    obtain ⟨fits, rfl⟩ := Decoder.ofValue_eq_ok.mp decoded
    exact ⟨cases_of_fits fits, ofValue_toJson (Recipe.wellFormed_ofJson _)⟩
  case accepted =>
    intro d members
    exact ⟨_, Decoder.ofValue_of_fits (fits_object.mpr members)⟩
  case positional =>
    intro items _ most m
    rw [ofValue_list]
    exact and_iff_right most

/-- A machine of a recipe that is not known, a list of three items, and an object with a member that
is not known and without those that may be left out. -/
theorem ofValue_forms_short :
    let recipe : Recipe := ⟨.other "openshift", .null, .ofList [("content", .string "FROM alpine")]⟩
    let m : Machine := { Machine.new "web" recipe with agents := ["org.eclipse.che.ssh"] }
    let items : List Json := [.string "web", recipe.layout.toJson, .ofMembers [("team", .null)]]
    let d : Dict Json :=
      .ofList [("name", .string "db"), ("recipe", recipe.layout.toJson), ("volumes", .null)]
    decoder.ofValue m.layout.toJson = .ok m ∧
      (∃ n, decoder.ofValue (.list items) = .ok n ∧
        decoder.ofValue (.object (Dict.ofList (keys.zip items))) = .ok n ∧
        decoder.ofValue n.layout.toJson = .ok n) ∧
      ∃ n, decoder.ofValue (.object d) = .ok n := by
  intro recipe m items d
  obtain ⟨again, found, accepted, positional⟩ := ofValue_forms
  have wellFormed : recipe.WellFormed := by
    constructor
    · rintro name ⟨rfl⟩
      decide
    · intro key hkey
      simp only [List.mem_cons, List.not_mem_nil, or_false] at hkey
      rcases hkey with rfl | rfl <;> rfl
  have listed : decoder.ofValue (.list items) = .ok (decoder.make (.list items)) :=
    Decoder.ofValue_of_fits (by decide +kernel)
  refine ⟨again m wellFormed, ⟨_, listed, ?_, ?_⟩, accepted d (fits_object.mp (by decide +kernel))⟩
  · exact (positional items (by decide) (by decide) _).mp listed
  · exact (found _ _ listed).2

end Machine

end Workspace
