import Workspace.Proofs.DocumentShape

/-! Which values are documents, said of the value itself. The known members of a document, of its
recipe and of each machine's config are as they must be; whatever other members there are does not
matter. A value decodes just if it is a document, and one that is none is reported for its shape. -/
namespace Workspace
open Json

namespace Json

def IsText (v : Json) : Prop := ∃ s, v = .string s

def IsObject (v : Json) : Prop := ∃ m : Dict Json, v = .object m

def IsListOf (good : Json → Prop) (v : Json) : Prop :=
  ∃ items, v = .list items ∧ ∀ x ∈ items, good x

/-- An object of whose members something holds. -/
def IsRecord (good : Dict Json → Prop) (v : Json) : Prop := ∃ m : Dict Json, v = .object m ∧ good m

/-- The same holds of every member. -/
def Each (good : Json → Prop) (m : Dict Json) : Prop := ∀ key v, m.get? key = some v → good v

/-- The member is left out, or null, or good. -/
def Optionally (good : Json → Prop) (m : Dict Json) (key : String) : Prop :=
  m.get? key = none ∨ m.get? key = some .null ∨ ∃ v, m.get? key = some v ∧ good v

lemma optionally_iff {good : Json → Prop} {m : Dict Json} {key : String} :
    Optionally good m key ↔ ∀ v, m.get? key = some v → v ≠ .null → good v := by
  constructor
  · rintro (absent | null | ⟨w, there, hw⟩) v hv hne
    · rw [absent] at hv
      cases hv
    · rw [null] at hv
      cases hv
      exact absurd rfl hne
    · rw [there] at hv
      cases hv
      exact hw
  · intro h
    rcases hv : m.get? key with _ | v
    · exact Or.inl hv
    · by_cases null : v = .null
      · exact Or.inr (Or.inl (null ▸ hv))
      · exact Or.inr (Or.inr ⟨v, hv, h v hv null⟩)

end Json

structure RecipeMembers (m : Dict Json) : Prop where
  type : ∃ s, m.get? "type" = some (.string s)
  location : Optionally IsText m "location"

/-- Servers are objects, and what is in them is left open. -/
structure ConfigMembers (m : Dict Json) : Prop where
  attributes : Optionally IsObject m "attributes"
  agents : Optionally (IsListOf IsText) m "agents"
  servers : Optionally (IsRecord (Each IsObject)) m "servers"

structure DocumentMembers (m : Dict Json) : Prop where
  recipe : ∃ r : Dict Json, m.get? "recipe" = some (.object r) ∧ RecipeMembers r
  machines : Optionally (IsRecord (Each (IsRecord ConfigMembers))) m "machines"

lemma fits_recipe_iff {v : Json} : Fits v Recipe.shape ↔ IsRecord RecipeMembers v := by
  rw [fits_recipe]
  refine exists_congr fun m => and_congr_right fun _ => ?_
  constructor
  · rintro ⟨type, location⟩
    exact ⟨type, optionally_iff.mpr location⟩
  · rintro ⟨type, location⟩
    exact ⟨type, optionally_iff.mp location⟩

lemma fits_config_iff {v : Json} : Fits v MachineConfig.shape ↔ IsRecord ConfigMembers v := by
  rw [fits_config]
  refine exists_congr fun m => and_congr_right fun _ => ?_
  constructor
  · rintro ⟨attributes, agents, servers⟩
    refine ⟨optionally_iff.mpr attributes, optionally_iff.mpr fun x hx hne => ?_,
      optionally_iff.mpr fun x hx hne => ?_⟩
    · exact fits_agents.mp (agents x hx hne)
    · exact fits_servers.mp (servers x hx hne)
  · rintro ⟨attributes, agents, servers⟩
    refine ⟨optionally_iff.mp attributes, fun x hx hne => ?_, fun x hx hne => ?_⟩
    · exact fits_agents.mpr (optionally_iff.mp agents x hx hne)
    · exact fits_servers.mpr (optionally_iff.mp servers x hx hne)

lemma fits_environment_iff {v : Json} :
    Fits v Environment.shape ↔ IsRecord DocumentMembers v := by
  rw [fits_environment]
  refine exists_congr fun m => and_congr_right fun _ => ?_
  constructor
  · rintro ⟨⟨v, there, recipe⟩, machines⟩
    obtain ⟨r, rfl, known⟩ := fits_recipe_iff.mp recipe
    refine ⟨⟨r, there, known⟩, optionally_iff.mpr fun x hx hne => ?_⟩
    obtain ⟨configs, rfl, each⟩ := machines x hx hne
    exact ⟨configs, rfl, fun name c hc => fits_config_iff.mp (each name c hc)⟩
  · rintro ⟨⟨r, there, known⟩, machines⟩
    refine ⟨⟨.object r, there, fits_recipe_iff.mpr ⟨r, rfl, known⟩⟩, fun x hx hne => ?_⟩
    obtain ⟨configs, rfl, each⟩ := optionally_iff.mp machines x hx hne
    exact ⟨configs, rfl, fun name c hc => fits_config_iff.mpr (each name c hc)⟩

/-- Whether or not a value decodes, it is the shape that decides. -/
lemma Json.Decoder.ofValue_cases {α : Type} (d : Decoder α) (v : Json) :
    (Fits v d.shape ∧ d.ofValue v = .ok (d.make v)) ∨
      (¬Fits v d.shape ∧ ∃ mismatch, d.ofValue v = .error (.mismatched mismatch)) := by
  unfold Decoder.ofValue Fits
  cases d.shape.check v with
  | ok => exact Or.inl ⟨rfl, rfl⟩
  | error mismatch => exact Or.inr ⟨nofun, mismatch, rfl⟩

/-- A value decodes just if it is an object with the members of a document, those of its recipe
and of its machines among them; if it is not, the fault is one of shape. -/
theorem decodes_iff (v : Json) :
    ((∃ e, Environment.decoder.ofValue v = .ok e) ↔ IsRecord DocumentMembers v) ∧
    (¬IsRecord DocumentMembers v →
      ∃ fault, Environment.decoder.ofValue v = .error fault ∧ fault.category = .shape) := by
  have fits : Fits v Environment.decoder.shape ↔ IsRecord DocumentMembers v :=
    fits_environment_iff
  rw [← fits]
  rcases Environment.decoder.ofValue_cases v with ⟨good, decoded⟩ | ⟨bad, mismatch, failed⟩
  · exact ⟨⟨fun _ => good, fun _ => ⟨_, decoded⟩⟩, fun bad => absurd good bad⟩
  · refine ⟨⟨?_, fun good => absurd good bad⟩, fun _ => ⟨_, failed, rfl⟩⟩
    rintro ⟨e, decoded⟩
    rw [failed] at decoded
    cases decoded

/-- Members that are not known are of no matter, be they named like known ones of another record.
A server that is no object is refused. -/
theorem decodes_iff_server :
    let document (server : Json) : Json := .ofMembers
      [("recipe", .ofMembers [("type", .string "x"), ("location", .null), ("agents", .bool true)]),
        ("machines", .ofMembers [("web", .ofMembers [("attributes", .null), ("recipe", .null),
          ("servers", .ofMembers [("http", server)])])])]
    IsRecord DocumentMembers (document (.ofMembers [("port", .null)])) ∧
      ¬IsRecord DocumentMembers (document (.string "80/tcp")) ∧
      ∃ fault, Environment.decoder.ofValue (document (.string "80/tcp")) = .error fault ∧
        fault.category = .shape := by
  intro document
  have accepted : IsRecord DocumentMembers (document (.ofMembers [("port", .null)])) :=
    (decodes_iff _).1.mp ⟨_, rfl⟩
  have refused : ¬IsRecord DocumentMembers (document (.string "80/tcp")) := by
    intro good
    obtain ⟨e, decoded⟩ := (decodes_iff _).1.mpr good
    cases decoded
  exact ⟨accepted, refused, (decodes_iff _).2 refused⟩

end Workspace
