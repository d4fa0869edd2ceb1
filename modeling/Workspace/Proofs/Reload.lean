import Workspace.Proofs.DocumentText
import Workspace.Proofs.Equality
import Workspace.Proofs.Rebuild
import Workspace.Proofs.Reencoding

/-! Documents that are written and read again. A document is well formed when no extra has
the key of a field and no known type of recipe passes for an unknown one. Every document
that was read is well formed, and a rebuild keeps it so; a well-formed document is read
again as it is, but for the form its machines are remembered in when there are some. -/
namespace Workspace
open Json Json.Layout

/-- None of the keys is there. -/
def Dict.Lacks {α : Type} (m : Dict α) (keys : List String) : Prop :=
  ∀ key ∈ keys, m.get? key = none

lemma Dict.without_lacks (m : Dict Json) (keys : List String) : (m.without keys).Lacks keys := by
  intro key hkey
  rw [Dict.get?_without, if_pos hkey]

/-- A type that is written as a known one is that one. -/
def RecipeType.Canonical (t : RecipeType) : Prop :=
  ∀ name, t = .other name → name ∉ ["dockerimage", "dockerfile", "compose"]

structure Recipe.WellFormed (r : Recipe) : Prop where
  type : r.type.Canonical
  extra : r.extra.Lacks ["type", "location"]

def MachineConfig.WellFormed (c : MachineConfig) : Prop :=
  c.extra.Lacks ["attributes", "agents", "servers"]

structure Environment.WellFormed (e : Environment) : Prop where
  recipe : e.recipe.WellFormed
  machines : ∀ name c, e.machines.get? name = some c → c.WellFormed
  extra : e.extra.Lacks ["recipe", "machines"]

/-! Whatever is read is well formed. -/

lemma RecipeType.canonical_ofText (s : String) : (RecipeType.ofText s).Canonical := by
  intro name same
  unfold RecipeType.ofText at same
  split_ifs at same with h₁ h₂ h₃
  cases same
  simp [h₁, h₂, h₃]

lemma Recipe.wellFormed_ofJson (v : Json) : (Recipe.ofJson v).WellFormed where
  type := RecipeType.canonical_ofText _
  extra := Dict.without_lacks _ _

lemma MachineConfig.wellFormed_ofJson (v : Json) : (MachineConfig.ofJson v).WellFormed :=
  Dict.without_lacks _ _

lemma Presence.get?_ofMember {α : Type} {m : Dict Json} {key : String} {f : Json → α} {a : α}
    (h : (Presence.ofMember m key f).get? = some a) : ∃ v, m.get? key = some v ∧ f v = a := by
  unfold Presence.ofMember at h
  split at h
  · cases h
  · cases h
  · exact ⟨_, ‹_›, Option.some.inj h⟩

lemma Environment.wellFormed_ofJson (v : Json) : (Environment.ofJson v).WellFormed where
  recipe := Recipe.wellFormed_ofJson _
  machines name c hc := by
    obtain ⟨d, hd, hc⟩ : ∃ d, (Presence.ofMember (fieldsOf Environment.shape v) "machines"
        fun m => m.asDict.mapValues MachineConfig.ofJson).get? = some d ∧ d.get? name = some c := by
      simp only [Environment.ofJson] at hc
      cases h : (Presence.ofMember (fieldsOf Environment.shape v) "machines"
          fun m => m.asDict.mapValues MachineConfig.ofJson).get? with
      | none => rw [h] at hc; cases hc
      | some d => rw [h] at hc; exact ⟨d, rfl, hc⟩
    obtain ⟨m, _, rfl⟩ := Presence.get?_ofMember hd
    rw [Chain.get?_mapValues] at hc
    obtain ⟨x, _, rfl⟩ := Option.map_eq_some_iff.mp hc
    exact MachineConfig.wellFormed_ofJson x
  extra := Dict.without_lacks _ _

lemma Environment.wellFormed_of_decoded {v : Json} {e : Environment}
    (h : Environment.decoder.ofValue v = .ok e) : e.WellFormed := by
  obtain ⟨_, rfl⟩ := Decoder.ofValue_eq_ok.mp h
  exact wellFormed_ofJson v

/-! A rebuild keeps a document well formed: it writes no extras. -/

lemma MachineConfig.wellFormed_mergeAll {config? : Option MachineConfig} {machines : List Machine}
    (h : ∀ c, config? = some c → c.WellFormed) {d : MachineConfig}
    (hd : mergeAll config? machines = some d) : d.WellFormed := by
  induction machines generalizing config? with
  | nil => exact h d hd
  | cons m machines ih =>
    refine ih (fun c hc => ?_) hd
    obtain rfl := Option.some.inj hc
    cases config? with
    | none => exact fun _ _ => rfl
    | some c => exact h c rfl

lemma Environment.WellFormed.rebuild {e : Environment} (h : e.WellFormed)
    (machines : List Machine) : (e.rebuild machines).WellFormed where
  recipe := e.rebuild_recipe machines ▸ h.recipe
  machines name d hd := by
    rw [get?_rebuild] at hd
    exact MachineConfig.wellFormed_mergeAll (h.machines name) hd
  extra := e.rebuild_extra machines ▸ h.extra

/-! What is written of a well-formed record is read again. -/

namespace Json.Layout
variable {known : List (String × Layout)} {extra : Dict Json} {keys : List String}

/-- The members of a record: the known ones, and further ones under other keys. -/
def dictOf (known : List (String × Layout)) (extra : Dict Json) : Dict Json :=
  merged (known ++ members extra)

lemma get?_dictOf (known : List (String × Layout)) (extra : Dict Json) (k : String) :
    (dictOf known extra).get? k = (extra.get? k).or (held known k) := by
  rw [← held_members extra, ← held_append]
  rfl

lemma get?_dictOf_of_mem (lacks : extra.Lacks keys) {k : String} (hk : k ∈ keys) :
    (dictOf known extra).get? k = held known k := by
  rw [get?_dictOf, lacks k hk, Option.none_or]

lemma without_dictOf (lacks : extra.Lacks keys) (only : ∀ k ∉ keys, held known k = none) :
    (dictOf known extra).without keys = extra := by
  apply Chain.ext_get?
  intro k
  rw [Dict.get?_without]
  split
  · exact (lacks k ‹_›).symm
  · rw [get?_dictOf, only k ‹_›, Option.or_none]

end Json.Layout

namespace Presence
variable {α : Type} {p : Presence α}

/-- A member is read as it was written if what is set is, and is not written as null. -/
lemma ofMember_written {m : Dict Json} {key : String} {f : Json → α} {g : α → Json}
    (h : m.get? key = p.written g) (back : ∀ a, p = .set a → g a ≠ .null ∧ f (g a) = a) :
    ofMember m key f = p := by
  cases p with
  | absent | null => simp only [ofMember, h, written]
  | set a =>
    obtain ⟨notNull, same⟩ := back a rfl
    simp only [ofMember, h, written, same]

lemma written_eq_some {g : α → Json} {x : Json} (h : p.written g = some x) (notNull : x ≠ .null) :
    ∃ a, p = .set a ∧ g a = x := by
  cases p with
  | absent => cases h
  | null => exact absurd (Option.some.inj h).symm notNull
  | set a => exact ⟨a, rfl, Option.some.inj h⟩

end Presence

lemma Agents.ofJson_toJson (agents : Agents) : Agents.ofJson agents.toJson = agents := by
  simp [Agents.ofJson, Agents.toJson, asList, asString, asString?, Function.comp_def]

lemma Agents.fits_toJson (agents : Agents) : Fits agents.toJson Agents.shape := by
  refine fits_agents.mpr ⟨_, rfl, fun x hx => ?_⟩
  obtain ⟨s, _, rfl⟩ := List.mem_map.mp hx
  exact ⟨s, rfl⟩

lemma Servers.fits_toJson (servers : Servers) : Fits servers.toJson Servers.shape := by
  refine fits_servers.mpr ⟨_, rfl, fun k x hx => ?_⟩
  rw [Chain.get?_mapValues] at hx
  obtain ⟨s, _, rfl⟩ := Option.map_eq_some_iff.mp hx
  exact ⟨s.members, rfl⟩

lemma Servers.ofJson_toJson (servers : Servers) : Servers.ofJson servers.toJson = servers := by
  apply Chain.ext_get?
  intro k
  simp only [Servers.ofJson, Servers.toJson, asDict, Chain.get?_mapValues, Option.map_map]
  have each : Server.ofJson ∘ Server.toJson = id := rfl
  rw [each, Option.map_id]
  rfl

lemma RecipeType.ofText_text {t : RecipeType} (h : t.Canonical) : ofText t.text = t := by
  cases t with
  | dockerImage | dockerfile | compose => rfl
  | other name =>
    have unknown := h name rfl
    simp only [List.mem_cons, List.not_mem_nil, or_false, not_or] at unknown
    simp [ofText, text, unknown]

namespace Recipe

/-- The fields as they are written. -/
def known (r : Recipe) : List (String × Layout) :=
  ("type", r.type.layout) :: r.location.member "location" .string

lemma held_known (r : Recipe) (k : String) : held r.known k =
    (if k = "location" then r.location.written .string else none).or
      (if k = "type" then some (.string r.type.text) else none) := by
  rw [known, ← List.singleton_append, held_append, Presence.held_member, held_singleton]
  rfl

lemma toJson_eq (r : Recipe) : r.layout.toJson = .object (dictOf r.known r.extra) := rfl

variable {r : Recipe}

lemma get?_type (h : r.WellFormed) :
    (dictOf r.known r.extra).get? "type" = some (.string r.type.text) := by
  rw [get?_dictOf_of_mem h.extra (by simp), held_known]
  rfl

lemma get?_location (h : r.WellFormed) :
    (dictOf r.known r.extra).get? "location" = r.location.written .string := by
  rw [get?_dictOf_of_mem h.extra (by simp), held_known]
  simp

lemma ofJson_toJson (h : r.WellFormed) : ofJson r.layout.toJson = r := by
  have rest : (dictOf r.known r.extra).without ["type", "location"] = r.extra := by
    refine without_dictOf h.extra fun k hk => ?_
    simp only [List.mem_cons, List.not_mem_nil, or_false, not_or] at hk
    simp [held_known, hk]
  have members : fieldsOf shape r.layout.toJson = dictOf r.known r.extra := rfl
  rw [ofJson, members, get?_type h, rest,
    Presence.ofMember_written (get?_location h) fun a _ => ⟨by simp, rfl⟩]
  simp only [Option.getD_some, asString, asString?, RecipeType.ofText_text h.type]

lemma fits_toJson (h : r.WellFormed) : Fits r.layout.toJson shape := by
  refine fits_recipe.mpr ⟨_, toJson_eq r, ⟨r.type.text, get?_type h⟩, fun x hx notNull => ?_⟩
  obtain ⟨s, _, rfl⟩ := Presence.written_eq_some (get?_location h ▸ hx) notNull
  exact ⟨s, rfl⟩

end Recipe

namespace MachineConfig

/-- The fields as they are written. -/
def known (c : MachineConfig) : List (String × Layout) :=
  c.attributes.member "attributes" .object ++ c.agents.member "agents" Agents.toJson ++
    c.servers.member "servers" Servers.toJson

lemma held_known (c : MachineConfig) (k : String) : held c.known k =
    (if k = "servers" then c.servers.written Servers.toJson else none).or
      ((if k = "agents" then c.agents.written Agents.toJson else none).or
        (if k = "attributes" then c.attributes.written .object else none)) := by
  rw [known, held_append, held_append, Presence.held_member, Presence.held_member,
    Presence.held_member]

lemma toJson_eq (c : MachineConfig) : c.layout.toJson = .object (dictOf c.known c.extra) := rfl

variable {c : MachineConfig}

lemma get?_attributes (h : c.WellFormed) :
    (dictOf c.known c.extra).get? "attributes" = c.attributes.written .object := by
  rw [get?_dictOf_of_mem h (by simp), held_known]
  simp

lemma get?_agents (h : c.WellFormed) :
    (dictOf c.known c.extra).get? "agents" = c.agents.written Agents.toJson := by
  rw [get?_dictOf_of_mem h (by simp), held_known]
  simp

lemma get?_servers (h : c.WellFormed) :
    (dictOf c.known c.extra).get? "servers" = c.servers.written Servers.toJson := by
  rw [get?_dictOf_of_mem h (by simp), held_known]
  simp

lemma ofJson_toJson (h : c.WellFormed) : ofJson c.layout.toJson = c := by
  have rest : (dictOf c.known c.extra).without ["attributes", "agents", "servers"] = c.extra := by
    refine without_dictOf h fun k hk => ?_
    simp only [List.mem_cons, List.not_mem_nil, or_false, not_or] at hk
    simp [held_known, hk]
  have members : fieldsOf shape c.layout.toJson = dictOf c.known c.extra := rfl
  rw [ofJson, members, rest,
    Presence.ofMember_written (get?_attributes h) fun a _ => ⟨by simp, rfl⟩,
    Presence.ofMember_written (get?_agents h) fun a _ => ⟨by simp [Agents.toJson], a.ofJson_toJson⟩,
    Presence.ofMember_written (get?_servers h)
      fun a _ => ⟨by simp [Servers.toJson], a.ofJson_toJson⟩]

lemma fits_toJson (h : c.WellFormed) : Fits c.layout.toJson shape := by
  refine fits_config.mpr ⟨_, toJson_eq c, fun x hx notNull => ?_, fun x hx notNull => ?_,
    fun x hx notNull => ?_⟩
  · obtain ⟨a, _, rfl⟩ := Presence.written_eq_some (get?_attributes h ▸ hx) notNull
    exact ⟨a, rfl⟩
  · obtain ⟨a, _, rfl⟩ := Presence.written_eq_some (get?_agents h ▸ hx) notNull
    exact a.fits_toJson
  · obtain ⟨a, _, rfl⟩ := Presence.written_eq_some (get?_servers h ▸ hx) notNull
    exact a.fits_toJson

end MachineConfig

namespace Environment

/-- How the machines are written. -/
def machinesPresence (e : Environment) : Presence (Dict MachineConfig) :=
  if e.machines.isEmpty then
    match e.machinesForm with
    | .object => .set e.machines
    | .null => .null
    | .absent => .absent
  else .set e.machines

def machinesJson (machines : Dict MachineConfig) : Json :=
  .object (machines.mapValues fun c => c.layout.toJson)

/-- The fields as they are written. -/
def known (e : Environment) : List (String × Layout) :=
  ("recipe", e.recipe.layout) :: e.machinesMember

lemma held_machines (e : Environment) (k : String) : held e.machinesMember k =
    if k = "machines" then e.machinesPresence.written machinesJson else none := by
  have entries : machinesJson e.machines =
      (record (e.machines.toList.map fun m => (m.1, m.2.layout))).toJson :=
    (toJson_machines e.machines).symm
  unfold machinesMember machinesPresence
  split
  · cases e.machinesForm
    · simp [Presence.written, entries]
    · simp [Presence.written, Layout.toJson]
    · simp [Presence.written]
  · simp [Presence.written, entries]

lemma held_known (e : Environment) (k : String) : held e.known k =
    (if k = "machines" then e.machinesPresence.written machinesJson else none).or
      (if k = "recipe" then some e.recipe.layout.toJson else none) := by
  rw [known, ← List.singleton_append, held_append, held_machines, held_singleton]

lemma toJson_eq (e : Environment) : e.toJson = .object (dictOf e.known e.extra) := rfl

/-- The form the machines are remembered in when the document is read again. -/
def reloadedForm (e : Environment) : MachinesForm :=
  if e.machines.isEmpty then e.machinesForm else .object

variable {e : Environment}

lemma get?_recipe (h : e.WellFormed) :
    (dictOf e.known e.extra).get? "recipe" = some e.recipe.layout.toJson := by
  rw [get?_dictOf_of_mem h.extra (by simp), held_known]
  simp

lemma get?_machines (lacks : e.extra.Lacks ["recipe", "machines"]) :
    (dictOf e.known e.extra).get? "machines" = e.machinesPresence.written machinesJson := by
  rw [get?_dictOf_of_mem lacks (by simp), held_known]
  simp

lemma eq_machines_of_set {machines : Dict MachineConfig} (h : e.machinesPresence = .set machines) :
    machines = e.machines := by
  unfold machinesPresence at h
  split at h
  · cases hform : e.machinesForm <;> simp_all
  · exact (Presence.set.inj h).symm

/-- The machines that are read are those that were written, in the form they were. -/
lemma ofMember_machines (h : e.WellFormed) :
    Presence.ofMember (dictOf e.known e.extra) "machines"
      (fun m => m.asDict.mapValues MachineConfig.ofJson) = e.machinesPresence := by
  refine Presence.ofMember_written (get?_machines h.extra) fun machines set => ?_
  obtain rfl := eq_machines_of_set set
  exact ⟨by simp [machinesJson], mapValues_mapValues_eq fun name c hc =>
    MachineConfig.ofJson_toJson (h.machines name c hc)⟩

/-- A well-formed document is read again as it is, but for the form of its machines. -/
lemma ofJson_toJson (h : e.WellFormed) :
    ofJson e.toJson = { e with machinesForm := e.reloadedForm } := by
  have rest : (dictOf e.known e.extra).without ["recipe", "machines"] = e.extra := by
    refine without_dictOf h.extra fun k hk => ?_
    simp only [List.mem_cons, List.not_mem_nil, or_false, not_or] at hk
    simp [held_known, hk]
  have members : fieldsOf shape e.toJson = dictOf e.known e.extra := rfl
  simp only [ofJson, members, get?_recipe h, rest, ofMember_machines h, Option.getD_some,
    Recipe.ofJson_toJson h.recipe]
  unfold machinesPresence reloadedForm
  split
  · rename_i none
    rw [Chain.isEmpty_iff] at none
    cases e.machinesForm <;> simp [Presence.get?, none, Dict.empty]
  · rfl

lemma fits_toJson (h : e.WellFormed) : Fits e.toJson shape := by
  refine fits_environment.mpr ⟨_, toJson_eq e, ⟨_, get?_recipe h, Recipe.fits_toJson h.recipe⟩,
    fun x hx notNull => ?_⟩
  obtain ⟨machines, set, rfl⟩ := Presence.written_eq_some (get?_machines h.extra ▸ hx) notNull
  obtain rfl := eq_machines_of_set set
  refine ⟨_, rfl, fun name c hc => ?_⟩
  rw [Chain.get?_mapValues] at hc
  obtain ⟨config, hconfig, rfl⟩ := Option.map_eq_some_iff.mp hc
  exact MachineConfig.fits_toJson (h.machines name config hconfig)

lemma ofValue_toJson (h : e.WellFormed) :
    decoder.ofValue e.toJson = .ok { e with machinesForm := e.reloadedForm } :=
  Decoder.ofValue_eq_ok.mpr ⟨fits_toJson h, ofJson_toJson h⟩

/-- Nothing but the form of the machines decides whether a document equals the one that is
read again. -/
lemma same_reloaded (e : Environment) :
    Environment.same { e with machinesForm := e.reloadedForm } e = true ↔
      e.machines = .empty ∨ e.machinesForm = .object := by
  simp only [Environment.same, Recipe.same_refl, Chain.agree_refl MachineConfig.same_refl,
    Chain.agree_refl Json.same_refl, Bool.true_and, beq_iff_eq, reloadedForm]
  by_cases none : e.machines.isEmpty = true
  · simp [Chain.isEmpty_iff.mp none, Chain.isEmpty, Dict.empty]
  · have some : e.machines ≠ .empty := fun h => none (Chain.isEmpty_iff.mpr h)
    simp [none, some, eq_comm]

/-! Documents that were read have the form of their machines from the value. -/

/-- The document was made of the value, or of a text with the value. -/
def DecodedFrom (e : Environment) (v : Json) : Prop :=
  decoder.ofValue v = .ok e ∨
    ∃ text, decoder.ofText text = .ok e ∧ Shape.any.parse text.toList = .ok v

lemma DecodedFrom.ofValue {v : Json} (h : e.DecodedFrom v) : decoder.ofValue v = .ok e := by
  rcases h with h | ⟨text, h, parsed⟩
  · exact h
  · obtain ⟨w, parsed', decoded⟩ := Decoder.value_of_text shape_extensible h
    obtain rfl : w = v := Except.ok.inj (parsed'.symm.trans parsed)
    exact decoded

/-- Machines come from an object only, and with one the form is that of an object. -/
lemma machines_of_decoded {v : Json} (h : decoder.ofValue v = .ok e) :
    (∃ m, v.asDict.get? "machines" = some (.object m)) ∧ e.machinesForm = .object ∨
      (¬∃ m, v.asDict.get? "machines" = some (.object m)) ∧ e.machinesForm ≠ .object ∧
        e.machines = .empty := by
  obtain ⟨fits, rfl⟩ := Decoder.ofValue_eq_ok.mp h
  obtain ⟨members, rfl, -, objects⟩ := fits_environment.mp fits
  have same : fieldsOf shape (.object members) = members := rfl
  have same' : asDict (.object members) = members := rfl
  rw [same']
  cases hm : members.get? "machines" with
  | none => exact Or.inr (by simp [ofJson, decoder, same, Presence.ofMember, hm, Presence.get?])
  | some v =>
    by_cases null : v = .null
    · subst null
      exact Or.inr (by simp [ofJson, decoder, same, Presence.ofMember, hm, Presence.get?])
    · obtain ⟨m, rfl, -⟩ := objects v hm null
      exact Or.inl (by simp [ofJson, decoder, same, Presence.ofMember, hm])

lemma machines_rebuild_eq_empty {machines : List Machine} :
    (e.rebuild machines).machines = .empty ↔ e.machines = .empty ∧ machines = [] := by
  constructor
  · intro h
    have none (name : String) :
        e.machines.get? name = none ∧ Machine.named name machines = [] := by
      rw [← MachineConfig.mergeAll_eq_none, ← get?_rebuild, h]
      rfl
    refine ⟨Chain.ext_get? fun name => (none name).1, List.eq_nil_iff_forall_not_mem.mpr ?_⟩
    intro m hm
    exact Machine.named_eq_nil.mp (none m.name).2 m hm rfl
  · rintro ⟨h, rfl⟩
    exact h

end Environment

open Environment

/-- What is decoded is well formed and stays so in a rebuild. A well-formed document is
read again from its value, with all it holds, and equals what is read just if it has no
machines or remembers them as an object. So of what was decoded, a rebuild differs from
its own reload just if it has the first machines of a document that had no object for them. -/
theorem reload_of_wellFormed :
    (∀ v e, Environment.decoder.ofValue v = .ok e → e.WellFormed) ∧
    (∀ text e, Environment.decoder.ofText text = .ok e → e.WellFormed) ∧
    (∀ (e : Environment) machines, e.WellFormed → (e.rebuild machines).WellFormed) ∧
    (∀ e : Environment, e.WellFormed → ∃ f, Environment.decoder.ofValue e.toJson = .ok f ∧
      f.recipe = e.recipe ∧ f.machines = e.machines ∧ f.extra = e.extra ∧
      (f.same e = true ↔ e.machines = .empty ∨ e.machinesForm = .object)) ∧
    ∀ (e : Environment) v machines, e.DecodedFrom v →
      let r := e.rebuild machines
      ∃ f, Environment.decoder.ofValue r.toJson = .ok f ∧
        (f.same r = false ↔
          (¬∃ m, v.asDict.get? "machines" = some (.object m)) ∧ machines ≠ []) := by
  refine ⟨fun v e => wellFormed_of_decoded, ?text, fun e machines h => h.rebuild machines,
    ?again, ?rebuilt⟩
  case text =>
    intro text e h
    obtain ⟨v, _, decoded⟩ := Decoder.value_of_text shape_extensible h
    exact wellFormed_of_decoded decoded
  case again =>
    intro e h
    exact ⟨_, ofValue_toJson h, rfl, rfl, rfl, same_reloaded e⟩
  case rebuilt =>
    intro e v machines decoded r
    have decoded := decoded.ofValue
    refine ⟨_, ofValue_toJson ((wellFormed_of_decoded decoded).rebuild machines), ?_⟩
    rw [Bool.eq_false_iff, Ne, same_reloaded, machines_rebuild_eq_empty, rebuild_machinesForm]
    rcases machines_of_decoded decoded with ⟨object, form⟩ | ⟨noObject, form, none⟩
    · simp [object, form]
    · simp [noObject, form, none]

/-- The first machine of a document whose machines are null is read again from an object;
without one the null is. -/
theorem reload_of_wellFormed_first :
    let v : Json := .ofMembers [
      ("recipe", .ofMembers [("type", .string "dockerimage")]), ("machines", .null)]
    ∃ e, Environment.decoder.ofValue v = .ok e ∧ e.WellFormed ∧
      (∃ f, Environment.decoder.ofValue (e.rebuild [.new "web" e.recipe]).toJson = .ok f ∧
        f.same (e.rebuild [.new "web" e.recipe]) = false) ∧
      ∃ f, Environment.decoder.ofValue e.toJson = .ok f ∧ f.same e = true := by
  intro v
  obtain ⟨byValue, _, _, again, rebuilt⟩ := reload_of_wellFormed
  have decoded : Environment.decoder.ofValue v = .ok (Environment.ofJson v) :=
    Decoder.ofValue_of_fits (by decide +kernel)
  refine ⟨_, decoded, byValue v _ decoded, ?_, ?_⟩
  · obtain ⟨f, hf, differs⟩ := rebuilt _ v [.new "web" (Environment.ofJson v).recipe]
      (Or.inl decoded)
    refine ⟨f, hf, differs.mpr ⟨?_, by simp⟩⟩
    rintro ⟨m, hm⟩
    have null : v.asDict.get? "machines" = some .null := by rfl
    rw [null] at hm
    cases hm
  · obtain ⟨f, hf, _, _, _, same⟩ := again _ (byValue v _ decoded)
    exact ⟨f, hf, same.mpr (Or.inl (by rfl))⟩

end Workspace
