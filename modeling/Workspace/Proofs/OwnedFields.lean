import Mathlib.Data.List.Forall2
import Workspace.Proofs.LastWrite
import Workspace.Proofs.Unedited

/-! A rebuild sees of the machines what it writes, and no more: of each name the limits, the
agents and the servers of its machines, in their order. Two rebuilds with machines that agree
in these, name by name, give the same document, however the names are mixed. One merge keeps
configs alike where the machines are; two runs of merges are then followed machine by machine. -/
namespace Workspace
open Machine MachineConfig

namespace Machine
variable {m n : Machine} {first second : List Machine}

/-- What a rebuild writes of a machine. -/
structure Owned where
  limit? : Option Json
  agents : Agents
  servers : Servers

def owned (m : Machine) : Owned := ⟨m.limit?, m.agents, m.servers⟩

lemma owned_eq_iff : m.owned = n.owned ↔
    m.limit? = n.limit? ∧ m.agents = n.agents ∧ m.servers = n.servers := by
  simp [owned]

lemma ownedSame_iff : m.ownedSame n = true ↔ alike Json.same m.limit? n.limit? = true ∧
    m.agents = n.agents ∧ m.servers.same n.servers = true := by
  simp [ownedSame, and_assoc]

/-- Where no two machines have one name, a name does not see their order. -/
lemma named_perm (perm : first.Perm second) (distinct : (first.map Machine.name).Nodup)
    (name : String) : named name first = named name second := by
  have distinct' : (second.map Machine.name).Nodup := (perm.map Machine.name).nodup_iff.mp distinct
  by_cases there : ∃ m ∈ first, m.name = name
  · obtain ⟨m, hm, rfl⟩ := there
    rw [named_of_mem distinct hm, named_of_mem distinct' (perm.mem_iff.mp hm)]
  · push Not at there
    have there' : ∀ m ∈ second, m.name ≠ name := fun m hm => there m (perm.mem_iff.mpr hm)
    rw [named_eq_nil.mpr there, named_eq_nil.mpr there']

/-- Another recipe and other attributes, with the limit as it is, are not seen. -/
lemma map_owned_edited {recipe : Recipe} {attributes : Dict Json}
    (kept : attributes.get? limitKey = m.limit?) (before after : List Machine) (name : String) :
    (named name (before ++ { m with recipe, attributes } :: after)).map owned =
      (named name (before ++ m :: after)).map owned := by
  have same : owned { m with recipe, attributes } = m.owned := owned_eq_iff.mpr ⟨kept, rfl, rfl⟩
  simp only [named_append, named_cons]
  split <;> simp [same]

end Machine

/-! Configs that are alike stay so in a merge. -/

namespace Presence
variable {α : Type} {same : α → α → Bool} {p q : Presence α} {empty : α}

lemma isSet_eq_of_agree (h : p.agree same q = true) : p.isSet = q.isSet := by
  cases p <;> cases q <;> first | rfl | cases h

lemma same_getD (h : p.agree same q = true) (h' : same empty empty = true) :
    same (p.get?.getD empty) (q.get?.getD empty) = true := by
  cases p <;> cases q <;> first | exact h | exact h' | cases h

end Presence

namespace MachineConfig
variable {c? d? : Option MachineConfig} {c d : MachineConfig} {m n : Machine}

lemma agree_withLimit_congr {a b : Dict Json} {x y : Option Json}
    (attributes : a.agree Json.same b = true) (limit : alike Json.same x y = true) :
    (withLimit a x).agree Json.same (withLimit b y) = true := by
  refine Chain.agree_iff.mpr fun k => ?_
  simp only [get?_withLimit]
  split
  · exact limit
  · exact Chain.agree_iff.mp attributes k

lemma agree_mergeLimit_congr {p q : Presence (Dict Json)} {x y : Option Json}
    (attributes : p.agree (Chain.agree Json.same) q = true) (limit : alike Json.same x y = true) :
    (mergeLimit p x).agree (Chain.agree Json.same) (mergeLimit q y) = true := by
  cases x with
  | none =>
    cases y with
    | some y => cases limit
    | none =>
      cases p <;> cases q <;> first | rfl | cases attributes | skip
      exact agree_withLimit_congr attributes limit
  | some x =>
    cases y with
    | none => cases limit
    | some y =>
      have empty : Chain.agree Json.same Dict.empty Dict.empty = true :=
        Chain.agree_refl Json.same_refl _
      exact agree_withLimit_congr (Presence.same_getD attributes empty) limit

lemma agree_mergeField_congr {α : Type} {same : α → α → Bool} {p q : Presence α} {x y : α}
    (created nothing : Bool) (field : p.agree same q = true) (new : same x y = true) :
    (mergeField created nothing p x).agree same (mergeField created nothing q y) = true := by
  unfold mergeField
  rw [Presence.isSet_eq_of_agree field]
  split
  · exact new
  · exact field

lemma same_iff : c.same d = true ↔ c.attributes.agree (Chain.agree Json.same) d.attributes = true ∧
    c.agents = d.agents ∧ c.servers.agree Servers.same d.servers = true ∧
      c.extra.agree Json.same d.extra = true := by
  simp [MachineConfig.same, and_assoc]

lemma isEmpty_eq_of_agree {α : Type} {same : α → α → Bool} {a b : Dict α}
    (h : a.agree same b = true) : a.isEmpty = b.isEmpty := by
  cases a <;> cases b <;> first | rfl | cases h

/-- Whether there was a config, and what it held, is the same to machines that are owned the
same. -/
lemma merge_same_congr (configs : alike MachineConfig.same c? d? = true)
    (machines : m.ownedSame n = true) : (merge c? m).same (merge d? n) = true := by
  obtain ⟨limit, agents, servers⟩ := ownedSame_iff.mp machines
  have created : c?.isNone = d?.isNone := by
    cases c? <;> cases d? <;> first | rfl | cases configs
  have config : (c?.getD .blank).same (d?.getD .blank) = true := by
    cases c? <;> cases d? <;> first | exact configs | exact same_refl _ | cases configs
  obtain ⟨attributes, oldAgents, oldServers, extra⟩ := same_iff.mp config
  have nothing : m.servers.isEmpty = n.servers.isEmpty := isEmpty_eq_of_agree servers
  refine same_iff.mpr ⟨agree_mergeLimit_congr attributes limit, ?_, ?_, extra⟩
  · simp only [merge, created, agents, oldAgents]
  · simp only [merge, created, nothing]
    exact agree_mergeField_congr _ _ oldServers servers

/-- Runs over machines that are owned the same, one by one. -/
lemma alike_mergeAll {first second : List Machine}
    (machines : List.Forall₂ (fun m n => m.ownedSame n = true) first second)
    (configs : alike MachineConfig.same c? d? = true) :
    alike MachineConfig.same (mergeAll c? first) (mergeAll d? second) = true := by
  induction machines generalizing c? d? with
  | nil => exact configs
  | cons same _ ih => exact ih (merge_same_congr configs same)

/-- A merge takes no more of a machine than what it writes. -/
lemma merge_congr (h : m.owned = n.owned) : merge c? m = merge c? n := by
  obtain ⟨limit, agents, servers⟩ := owned_eq_iff.mp h
  have limit : m.attributes.get? limitKey = n.attributes.get? limitKey := limit
  simp only [merge, limit, agents, servers]

lemma mergeAll_congr {first second : List Machine} (h : first.map owned = second.map owned) :
    mergeAll c? first = mergeAll c? second := by
  induction first generalizing c? second with
  | nil =>
    obtain rfl := List.map_eq_nil_iff.mp h.symm
    rfl
  | cons m first ih =>
    obtain ⟨n, rest, rfl, same, tail⟩ := List.map_eq_cons_iff.mp h.symm
    rw [mergeAll_cons, mergeAll_cons, merge_congr same.symm, ih tail.symm]

end MachineConfig

lemma rebuild_eq_of_owned {e : Environment} {first second : List Machine}
    (h : ∀ name, (named name first).map owned = (named name second).map owned) :
    e.rebuild first = e.rebuild second := by
  have machines : (e.rebuild first).machines = (e.rebuild second).machines := by
    apply Chain.ext_get?
    intro name
    rw [Environment.get?_rebuild, Environment.get?_rebuild, mergeAll_congr (h name)]
  rw [Environment.rebuild_eq, machines, ← Environment.rebuild_eq]

/-- Machines that agree, name by name and one by one, in the limit, the agents and the servers
make the same document, equal even in the sign of zeros if they agree in that. So the order of
machines of different names is of no matter, nor is the recipe of a machine or an attribute of
it that is not the limit. -/
theorem rebuild_owned (e : Environment) :
    (∀ first second : List Machine,
      (∀ name, List.Forall₂ (fun m n => m.ownedSame n = true) (named name first)
        (named name second)) →
      (e.rebuild first).same (e.rebuild second) = true) ∧
    (∀ first second : List Machine,
      (∀ name, (named name first).map owned = (named name second).map owned) →
      e.rebuild first = e.rebuild second) ∧
    (∀ first second : List Machine, first.Perm second → (first.map Machine.name).Nodup →
      e.rebuild first = e.rebuild second) ∧
    ∀ (before after : List Machine) (m : Machine) (recipe : Recipe) (attributes : Dict Json),
      attributes.get? limitKey = m.limit? →
      e.rebuild (before ++ { m with recipe, attributes } :: after) =
        e.rebuild (before ++ m :: after) := by
  refine ⟨?alike, fun _ _ => rebuild_eq_of_owned, ?order, ?edited⟩
  case alike =>
    intro first second h
    have machines : (e.rebuild first).machines.agree MachineConfig.same
        (e.rebuild second).machines = true := by
      refine Chain.agree_iff.mpr fun name => ?_
      rw [Environment.get?_rebuild, Environment.get?_rebuild]
      exact alike_mergeAll (h name) (alike_refl MachineConfig.same_refl _)
    simp only [Environment.same, Environment.rebuild_recipe, Environment.rebuild_extra,
      Environment.rebuild_machinesForm, Recipe.same_refl, Chain.agree_refl Json.same_refl,
      machines, beq_self_eq_true, Bool.and_true]
  case order =>
    intro first second perm distinct
    exact rebuild_eq_of_owned fun name => by rw [named_perm perm distinct]
  case edited =>
    intro before after m recipe attributes kept
    exact rebuild_eq_of_owned (map_owned_edited kept before after)

/-- Two machines of one name with another between them or before them, of another recipe, the
limit a zero of another sign. -/
theorem rebuild_owned_mixed :
    let recipe : Recipe := ⟨.dockerImage, .absent, .empty⟩
    let other : Recipe := ⟨.compose, .null, .empty⟩
    let e := (Environment.new recipe).insertMachine "web" ⟨.null, .absent, .absent, .empty⟩
    let db (r : Recipe) := Machine.new "db" r
    let installed (r : Recipe) : Machine := { Machine.new "web" r with agents := ["ssh"] }
    let limited (r : Recipe) (negative : Bool) : Machine := { Machine.new "web" r with
      attributes := Dict.empty.insert limitKey (.number (.double (.zero negative))) }
    let first := [installed recipe, db recipe, limited recipe true]
    (e.rebuild first).same (e.rebuild [db other, installed other, limited other false]) = true ∧
      e.rebuild first = e.rebuild [db other, installed other, limited other true] ∧
      e.rebuild [limited recipe true, db recipe] = e.rebuild [db recipe, limited recipe true] ∧
      e.rebuild [{ db recipe with
        recipe := other, attributes := Dict.empty.insert "team" (.string "core") }] =
        e.rebuild [db recipe] := by
  intro recipe other e db installed limited first
  obtain ⟨alike, equal, order, edited⟩ := rebuild_owned e
  have names (P : String → Prop) (web : P "web") (db : P "db")
      (others : ∀ name, "web" ≠ name → "db" ≠ name → P name) (name : String) : P name := by
    by_cases isWeb : "web" = name
    · exact isWeb ▸ web
    · by_cases isDb : "db" = name
      · exact isDb ▸ db
      · exact others name isWeb isDb
  refine ⟨alike first _ (names _ ?_ ?_ fun name noWeb noDb => ?_),
    equal first _ (names _ rfl rfl fun name noWeb noDb => ?_), order _ _ (.swap ..) ?_,
    edited [] [] (db recipe) other _ rfl⟩
  · exact .cons rfl (.cons rfl .nil)
  · exact .cons rfl .nil
  · simp [named, first, installed, limited, db, Machine.new, noWeb, noDb]
  · simp [named, first, installed, limited, db, Machine.new, noWeb, noDb]
  · simp [limited, db, Machine.new]

end Workspace
