import Workspace.Proofs.Rebuild

/-! What a rebuild leaves alone. Of the document all but the machines; of the machines all
but those that are merged in; of a config its extras and the attributes that are not the
limit. A field that is absent or null stays so exactly while there is nothing to write:
once a machine has set it, it stays set whatever the machines after it hold. -/
namespace Workspace
open Machine MachineConfig

namespace Presence
variable {α : Type} {p q r : Presence α} {A B : Prop}

/-- An absent field stays absent, and a null one null, just if there is nothing to write;
a set one stays set. -/
structure Follows (p : Presence α) (nothing : Prop) (q : Presence α) : Prop where
  unset : p.isSet = false → (q = p ↔ nothing)
  set : p.isSet = true ∨ ¬nothing → q.isSet = true

lemma Follows.refl : Follows p True p :=
  ⟨fun _ => by simp, fun h => h.resolve_right (by simp)⟩

lemma Follows.trans (hq : Follows p A q) (hr : Follows q B r) : Follows p (A ∧ B) r := by
  by_cases hA : A
  · by_cases hp : p.isSet = true
    · have hset := hr.set (Or.inl (hq.set (Or.inl hp)))
      exact ⟨fun unset => by simp [hp] at unset, fun _ => hset⟩
    · obtain rfl : q = p := (hq.unset (by simpa using hp)).mpr hA
      simpa [hA] using hr
  · have hset := hr.set (Or.inl (hq.set (Or.inr hA)))
    refine ⟨fun unset => ?_, fun _ => hset⟩
    have hne : r ≠ p := by rintro rfl; rw [unset] at hset; cases hset
    simp [hne, hA]

end Presence

namespace MachineConfig

/-- What of a config is kept while machines are merged into it. -/
structure Kept (c : MachineConfig) (machines : List Machine) (d : MachineConfig) : Prop where
  extra : d.extra = c.extra
  others : ∀ k ≠ limitKey, (attributesOf (some d)).get? k = (attributesOf (some c)).get? k
  attributes : c.attributes.Follows (∀ m ∈ machines, m.limit? = none) d.attributes
  agents : c.agents.Follows (∀ m ∈ machines, m.agents = []) d.agents
  servers : c.servers.Follows (∀ m ∈ machines, m.servers = .empty) d.servers

/-- A config with no more than there is in the machines it was made from. -/
structure Fresh (d : MachineConfig) : Prop where
  extra : d.extra = .empty
  attributes : ∃ a, d.attributes = .set a ∧ ∀ k ≠ limitKey, a.get? k = none
  agents : d.agents.isSet = true
  servers : d.servers.isSet = true

lemma follows_mergeLimit (old : Presence (Dict Json)) (stored : Option Json) :
    old.Follows (stored = none) (mergeLimit old stored) := by
  constructor
  · cases stored <;> cases old <;> simp [mergeLimit, Presence.isSet, Presence.get?, Presence.map]
  · cases stored <;> cases old <;> simp [mergeLimit, Presence.isSet, Presence.get?, Presence.map]

lemma follows_mergeField {α : Type} (nothing : Bool) (old : Presence α) (new : α) :
    old.Follows (nothing = true) (mergeField false nothing old new) := by
  constructor
  · cases nothing <;> cases old <;> simp [mergeField, Presence.isSet, Presence.get?]
  · cases nothing <;> cases old <;> simp [mergeField, Presence.isSet, Presence.get?]

/-- One merge into a config there is. -/
lemma kept_merge (c : MachineConfig) (m : Machine) : Kept c [m] (merge (some c) m) where
  extra := rfl
  others k hk := by rw [attributesOf_merge, get?_withLimit, if_neg hk]
  attributes := by simpa using! follows_mergeLimit c.attributes m.limit?
  agents := by simpa using! follows_mergeField m.agents.isEmpty c.agents m.agents
  servers := by
    simpa [Chain.isEmpty_iff] using! follows_mergeField m.servers.isEmpty c.servers m.servers

lemma Kept.refl (c : MachineConfig) : Kept c [] c := by
  refine ⟨rfl, fun _ _ => rfl, ?_, ?_, ?_⟩ <;> simpa using Presence.Follows.refl

lemma Kept.trans {c d f : MachineConfig} {ms ns : List Machine} (h : Kept c ms d)
    (h' : Kept d ns f) : Kept c (ms ++ ns) f where
  extra := h'.extra.trans h.extra
  others k hk := (h'.others k hk).trans (h.others k hk)
  attributes := by simpa only [List.forall_mem_append] using h.attributes.trans h'.attributes
  agents := by simpa only [List.forall_mem_append] using h.agents.trans h'.agents
  servers := by simpa only [List.forall_mem_append] using h.servers.trans h'.servers

lemma exists_kept_mergeAll (c : MachineConfig) (machines : List Machine) :
    ∃ d, mergeAll (some c) machines = some d ∧ Kept c machines d := by
  induction machines generalizing c with
  | nil => exact ⟨c, rfl, .refl c⟩
  | cons m machines ih =>
    obtain ⟨d, hd, kept⟩ := ih (merge (some c) m)
    exact ⟨d, hd, (kept_merge c m).trans kept⟩

lemma fresh_mergeAll {machines : List Machine} {d : MachineConfig}
    (hd : mergeAll none machines = some d) : Fresh d := by
  cases machines with
  | nil => cases hd
  | cons m machines =>
    obtain ⟨d', hd', kept⟩ := exists_kept_mergeAll (merge none m) machines
    obtain rfl : d' = d := Option.some.inj (hd'.symm.trans hd)
    have agents : d'.agents.isSet = true := kept.agents.set (Or.inl rfl)
    have servers : d'.servers.isSet = true := kept.servers.set (Or.inl rfl)
    have attributes : d'.attributes.isSet = true :=
      kept.attributes.set (Or.inl ((follows_mergeLimit _ _).set (Or.inl rfl)))
    refine ⟨kept.extra, ?_, agents, servers⟩
    cases ha : d'.attributes with
    | absent | null => rw [ha] at attributes; cases attributes
    | set a =>
      refine ⟨a, rfl, fun k hk => ?_⟩
      have same := kept.others k hk
      rw [attributesOf_merge, get?_withLimit, if_neg hk] at same
      simpa [attributesOf, ha, Presence.get?] using! same

end MachineConfig

/-- All that a rebuild keeps, of the document and of each config there was, and what there
is in a config there was not. -/
theorem rebuild_frame (e : Environment) (machines : List Machine) :
    let r := e.rebuild machines
    r.recipe = e.recipe ∧ r.extra = e.extra ∧ r.machinesForm = e.machinesForm ∧
    (∀ name ∈ e.names, name ∈ r.names) ∧
    (∀ name, (∀ m ∈ machines, m.name ≠ name) → r.machines.get? name = e.machines.get? name) ∧
    (∀ name c, e.machines.get? name = some c →
      ∃ d, r.machines.get? name = some d ∧ Kept c (named name machines) d) ∧
    (∀ name d, e.machines.get? name = none → r.machines.get? name = some d → Fresh d) := by
  refine ⟨e.rebuild_recipe machines, e.rebuild_extra machines, e.rebuild_machinesForm machines,
    ?names, ?unnamed, ?kept, ?fresh⟩
  case names =>
    intro name h
    exact Environment.mem_names_rebuild.mpr (Or.inl h)
  case unnamed =>
    intro name h
    rw [Environment.get?_rebuild, named_eq_nil.mpr h]
    rfl
  case kept =>
    intro name c hc
    rw [Environment.get?_rebuild, hc]
    exact exists_kept_mergeAll c (named name machines)
  case fresh =>
    intro name d hc hd
    rw [Environment.get?_rebuild, hc] at hd
    exact fresh_mergeAll hd

/-- Merged twice, first with nothing to write and then with a limit, a config with null
attributes and no agents gets attributes, and still has no agents. -/
theorem rebuild_frame_null :
    let recipe : Recipe := ⟨.dockerImage, .absent, .empty⟩
    let web : MachineConfig := ⟨.null, .absent, .null, Dict.empty.insert "volumes" (.list [])⟩
    let e := (Environment.new recipe).insertMachine "web" web
    let limited := (Machine.new "web" recipe).setMemoryLimit 512
    let r := e.rebuild [Machine.new "web" recipe, Machine.new "db" recipe, limited]
    ∃ d, r.machines.get? "web" = some d ∧ d.agents = .absent ∧ d.attributes ≠ .null ∧
      d.extra = web.extra := by
  intro recipe web e limited r
  obtain ⟨_, _, _, _, _, kept, _⟩ :=
    rebuild_frame e [Machine.new "web" recipe, Machine.new "db" recipe, limited]
  obtain ⟨d, hd, kept⟩ := kept "web" web rfl
  have both : named "web" [Machine.new "web" recipe, Machine.new "db" recipe, limited] =
    [Machine.new "web" recipe, limited] := rfl
  rw [both] at kept
  refine ⟨d, hd, (kept.agents.unset rfl).mpr ?_, fun null => ?_, kept.extra⟩
  · simp [Machine.new, limited, setMemoryLimit]
  · have unlimited := (kept.attributes.unset rfl).mp null limited (by simp)
    cases unlimited

end Workspace
