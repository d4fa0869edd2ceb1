import Workspace.Proofs.DocumentShape
import Workspace.Proofs.Written

/-! Decoding a document and encoding it again changes nothing. At each level the value is
an object that decoding splits into fields and extras; it comes together again because a
field is written under its key exactly as it was found, be it absent, null or set, and
because no extra has the key of a field. -/
namespace Workspace
open Json Json.Layout

lemma Agents.toJson_ofJson {v : Json} (h : Fits v Agents.shape) :
    (Agents.ofJson v).toJson = v := by
  obtain ⟨items, rfl, texts⟩ := fits_agents.mp h
  have each : ∀ x ∈ items, (Json.string ∘ asString) x = x := by
    intro x hx
    obtain ⟨s, rfl⟩ := texts x hx
    rfl
  simp only [Agents.ofJson, Agents.toJson, asList, List.map_map, Json.list.injEq]
  exact (List.map_congr_left each).trans (List.map_id' items)

/-- Values that are each written as they were read. -/
lemma mapValues_mapValues_eq {α β : Type} {m : Dict α} {f : α → β} {g : β → α}
    (h : ∀ k v, m.get? k = some v → g (f v) = v) : (m.mapValues f).mapValues g = m := by
  apply Chain.ext_get?
  intro k
  rw [Chain.get?_mapValues, Chain.get?_mapValues]
  cases hv : m.get? k with
  | none => rfl
  | some v => exact congrArg some (h k v hv)

lemma Servers.toJson_ofJson {v : Json} (h : Fits v Servers.shape) :
    (Servers.ofJson v).toJson = v := by
  obtain ⟨m, rfl, objects⟩ := fits_servers.mp h
  have each : ∀ k x, m.get? k = some x → (Server.ofJson x).toJson = x := by
    intro k x hx
    obtain ⟨s, rfl⟩ := objects k x hx
    rfl
  exact congrArg Json.object (mapValues_mapValues_eq each)

lemma RecipeType.text_ofText (s : String) : (RecipeType.ofText s).text = s := by
  unfold RecipeType.ofText
  split_ifs <;> simp_all [RecipeType.text]

lemma Recipe.toJson_ofJson {v : Json} (h : Fits v Recipe.shape) :
    (Recipe.ofJson v).layout.toJson = v := by
  obtain ⟨m, rfl, ⟨s, hs⟩, location⟩ := fits_recipe.mp h
  have type : Restores m ["type"]
      [("type", (RecipeType.ofText ((m.get? "type").getD .null).asString).layout)] := by
    apply Restores.singleton
    rw [hs]
    exact congrArg (some ∘ Json.string) (RecipeType.text_ofText s).symm
  have location : Restores m ["location"]
      ((Presence.ofMember m "location" asString).member "location" .string) := by
    apply Presence.restores
    intro x hx hne
    obtain ⟨t, rfl⟩ := location x hx hne
    rfl
  exact (type.append location).toJson_record

lemma MachineConfig.toJson_ofJson {v : Json} (h : Fits v MachineConfig.shape) :
    (MachineConfig.ofJson v).layout.toJson = v := by
  obtain ⟨m, rfl, attributes, agents, servers⟩ := fits_config.mp h
  have attributes : Restores m ["attributes"]
      ((Presence.ofMember m "attributes" asDict).member "attributes" .object) := by
    apply Presence.restores
    intro x hx hne
    obtain ⟨a, rfl⟩ := attributes x hx hne
    rfl
  have agents : Restores m ["agents"]
      ((Presence.ofMember m "agents" Agents.ofJson).member "agents" Agents.toJson) :=
    Presence.restores fun x hx hne => Agents.toJson_ofJson (agents x hx hne)
  have servers : Restores m ["servers"]
      ((Presence.ofMember m "servers" Servers.ofJson).member "servers" Servers.toJson) :=
    Presence.restores fun x hx hne => Servers.toJson_ofJson (servers x hx hne)
  exact ((attributes.append agents).append servers).toJson_record

namespace Environment

lemma toJson_machines (machines : Dict MachineConfig) :
    (record (machines.toList.map fun m => (m.1, m.2.layout))).toJson =
      .object (machines.mapValues fun c => c.layout.toJson) := by
  apply toJson_record
  intro k
  rw [held_toList, Chain.get?_mapValues]

/-- The machines are written in the form they were found in: of the four, those without
machines are told apart by what is remembered. -/
lemma held_machinesMember (m : Dict Json) (k : String) :
    held (Environment.ofJson (.object m)).machinesMember k =
      held ((Presence.ofMember m "machines" fun v => v.asDict.mapValues MachineConfig.ofJson).member
        "machines" fun c => .object (c.mapValues fun c => c.layout.toJson)) k := by
  have members : fieldsOf Environment.shape (.object m) = m := rfl
  simp only [machinesMember, Environment.ofJson, members]
  generalize (Presence.ofMember m "machines" _) = machines
  cases machines with
  | absent => rfl
  | null => rfl
  | set machines =>
    rw [Presence.held_member, Presence.written, ← toJson_machines]
    split <;> simp [Presence.get?]

lemma restores_machines {m : Dict Json}
    (h : ∀ x, m.get? "machines" = some x → x ≠ .null → ∃ machines : Dict Json,
      x = .object machines ∧ ∀ name c, machines.get? name = some c → Fits c MachineConfig.shape) :
    Restores m ["machines"] (Environment.ofJson (.object m)).machinesMember := by
  intro k
  rw [held_machinesMember]
  refine Presence.restores (fun x hx hne => ?_) k
  obtain ⟨machines, rfl, configs⟩ := h x hx hne
  exact congrArg Json.object
    (mapValues_mapValues_eq fun name c hc => MachineConfig.toJson_ofJson (configs name c hc))

lemma toJson_ofJson {v : Json} (h : Fits v Environment.shape) :
    (Environment.ofJson v).toJson = v := by
  obtain ⟨m, rfl, ⟨r, hr, fits⟩, machines⟩ := fits_environment.mp h
  have recipe : Restores m ["recipe"]
      [("recipe", (Recipe.ofJson ((m.get? "recipe").getD .null)).layout)] := by
    apply Restores.singleton
    rw [hr]
    exact congrArg some (Recipe.toJson_ofJson fits).symm
  exact (recipe.append (restores_machines machines)).toJson_record

/-- A document that is decoded is written as it was read. -/
theorem toJson_of_decoded {v : Json} {e : Environment}
    (h : Environment.decoder.ofValue v = .ok e) : e.toJson = v := by
  obtain ⟨fits, rfl⟩ := Decoder.ofValue_eq_ok.mp h
  exact toJson_ofJson fits

/-- Extras at every level, a type that is not known, and fields absent, null and set. -/
theorem toJson_of_decoded_extras :
    let v : Json := .ofMembers [
      ("recipe", .ofMembers [("type", .string "openshift"), ("location", .null),
        ("content", .string "FROM alpine")]),
      ("machines", .ofMembers [
        ("web", .ofMembers [("attributes", .null), ("agents", .list []), ("volumes", .ofNat 2)]),
        ("db", .ofMembers [("attributes", .ofMembers [("team", .string "core")]),
          ("servers", .ofMembers [("sql", .ofMembers [("port", .ofNat 5432)])])])]),
      ("labels", .list [.bool true, .number (.double (.zero true))])]
    ∃ e, Environment.decoder.ofValue v = .ok e ∧ e.machines.size = 2 ∧ e.toJson = v := by
  intro v
  have decoded : Environment.decoder.ofValue v = .ok (Environment.ofJson v) :=
    Decoder.ofValue_of_fits (by decide +kernel)
  exact ⟨_, decoded, by decide +kernel, toJson_of_decoded decoded⟩

end Environment

end Workspace
