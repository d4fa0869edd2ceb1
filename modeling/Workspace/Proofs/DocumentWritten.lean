import Workspace.Proofs.Path
import Workspace.Proofs.Reload
import Workspace.Proofs.TextDepth

/-! Documents as texts. The text of any document is read as its value: where an extra has the
key of a field the object written repeats the key, and the extra stands last. In a well-formed
document no extra has the key of a field, so no key is repeated, and the text is read as the
document again. -/
namespace Workspace
open Json Json.Layout

namespace Json.Layout

/-- A record of some of its fields, in their order, and of extras under other keys. -/
lemma keysDistinct_record (known : List (String × Layout)) {extra : Dict Json}
    {keys : List String} (fields : (known.map Prod.fst).Sublist keys) (distinct : keys.Nodup)
    (lacks : extra.Lacks keys) (each : ∀ m ∈ known, m.2.KeysDistinct) :
    (Layout.record (known ++ members extra)).KeysDistinct := by
  have extras : (members extra).map Prod.fst = extra.keys := by
    simp [members, Chain.keys, Function.comp_def]
  refine .record ?_ fun m hm => ?_
  · rw [List.map_append, extras, List.nodup_append]
    refine ⟨distinct.sublist fields, extra.nodup_keys, ?_⟩
    rintro key hkey _ hextra rfl
    obtain ⟨⟨_, v⟩, mem, rfl⟩ := List.mem_map.mp hextra
    have absent := lacks _ (fields.subset hkey)
    rw [(Chain.mem_toList extra _ v).mp mem] at absent
    cases absent
  · rcases List.mem_append.mp hm with hm | hm
    · exact each m hm
    · obtain ⟨e, _, rfl⟩ := List.mem_map.mp hm
      exact .value e.2

/-- A layout that is not nested too deep is read from its text as its value. -/
lemma parse_of_within {l : Layout} (within : l.Within nestingLimit) :
    Shape.any.parse l.pretty.toList = .ok l.toJson := by
  obtain ⟨l', parsed, value, _⟩ := exists_parse spaced_indented within blank_nil
  have text : l.pretty.toList = l.write .indented 0 := String.toList_ofList
  rw [List.append_nil, ← text] at parsed
  rw [parse_any, parsed, map_ok, value]

end Json.Layout

namespace Presence
variable {α : Type} {p : Presence α} {key : String} {f : α → Json}

lemma keys_member : ((p.member key f).map Prod.fst).Sublist [key] := by
  cases p <;> simp [member]

lemma keysDistinct_member : ∀ m ∈ p.member key f, m.2.KeysDistinct := by
  cases p <;> simp [member, KeysDistinct.value]

end Presence

lemma Recipe.keysDistinct {r : Recipe} (h : r.WellFormed) : r.layout.KeysDistinct := by
  refine keysDistinct_record r.known ?_ (by decide) h.extra ?_
  · exact List.Sublist.cons_cons _ Presence.keys_member
  · intro m hm
    rcases List.mem_cons.mp hm with rfl | hm
    · exact .value _
    · exact Presence.keysDistinct_member m hm

lemma MachineConfig.keysDistinct {c : MachineConfig} (h : c.WellFormed) :
    c.layout.KeysDistinct := by
  refine keysDistinct_record c.known ?_ (by decide) h ?_
  · rw [known, List.map_append, List.map_append]
    exact (Presence.keys_member.append Presence.keys_member).append Presence.keys_member
  · intro m hm
    rw [known, List.mem_append, List.mem_append] at hm
    rcases hm with (hm | hm) | hm
    all_goals exact Presence.keysDistinct_member m hm

namespace Environment
variable {e : Environment}

lemma machinesMember_cases (e : Environment) :
    e.machinesMember = [] ∨ e.machinesMember = [("machines", .value .null)] ∨
      e.machinesMember =
        [("machines", .record (e.machines.toList.map fun m => (m.1, m.2.layout)))] := by
  unfold machinesMember
  split
  · cases e.machinesForm <;> simp
  · simp

lemma keysDistinct (h : e.WellFormed) : e.layout.KeysDistinct := by
  have entries :
      (Layout.record (e.machines.toList.map fun m => (m.1, m.2.layout))).KeysDistinct := by
    refine .record ?_ ?_
    · rw [List.map_map]
      exact e.machines.nodup_keys
    · simp only [List.forall_mem_map]
      exact fun m hm =>
        MachineConfig.keysDistinct (h.machines m.1 m.2 ((Chain.mem_toList _ _ _).mp hm))
  refine keysDistinct_record e.known ?_ (by decide) h.extra ?_
  · rcases e.machinesMember_cases with same | same | same <;> simp [known, same]
  · rcases e.machinesMember_cases with same | same | same <;>
      simp [known, same, Recipe.keysDistinct h.recipe, KeysDistinct.value, entries]

lemma toList_pretty (e : Environment) : e.pretty.toList = e.layout.write .indented 0 :=
  String.toList_ofList

/-- The text of a document is read as its value unless it is nested too deep. The document need
not be well-formed: its extras may have the keys of fields, which the text then repeats. -/
theorem parse_pretty (e : Environment) (nested : nesting e.pretty.toList ≤ nestingLimit) :
    Shape.any.parse e.pretty.toList = .ok e.toJson := by
  rw [toList_pretty] at nested
  exact Layout.parse_of_within ((within_iff_nesting spaced_indented 0).mpr nested)

/-- At each level an extra under the key of a field takes the place of the field. -/
theorem parse_pretty_shadowed :
    let recipe : Recipe := ⟨.dockerImage, .set "a", .ofList [("type", .string "b")]⟩
    let web : MachineConfig := ⟨.null, .set ["c"], .absent, .ofList [("agents", .string "d")]⟩
    let e : Environment := ⟨recipe, .ofList [("web", web)], .empty, .object⟩
    let f := e.setExtra "machines" (.string "e")
    (∃ v, Shape.any.parse e.pretty.toList = .ok v ∧
      (v.getPath ["recipe", "type"]).asString? = some "b" ∧
      (v.getPath ["machines", "web", "agents"]).asString? = some "d") ∧
    ∃ v, Shape.any.parse f.pretty.toList = .ok v ∧
      (v.getPath ["machines"]).asString? = some "e" := by
  intro recipe web e f
  have nested : nesting e.pretty.toList ≤ nestingLimit := by
    rw [toList_pretty]
    decide +kernel
  have nested' : nesting f.pretty.toList ≤ nestingLimit := by
    rw [toList_pretty]
    decide +kernel
  refine ⟨⟨_, parse_pretty e nested, ?_, ?_⟩, _, parse_pretty f nested', ?_⟩
  all_goals decide +kernel

/-- The text of a well-formed document is read as the document, but for the form of its
machines, and as its value. -/
theorem ofText_pretty (h : e.WellFormed) (nested : e.toJson.Within nestingLimit) :
    decoder.ofText (e.pretty ++ "\n") = .ok { e with machinesForm := e.reloadedForm } ∧
      Shape.any.parse e.pretty.toList = .ok e.toJson := by
  have distinct := keysDistinct h
  have within : e.layout.Within nestingLimit := distinct.within nested
  refine ⟨?_, Layout.parse_of_within within⟩
  obtain ⟨l, parsed, value, keys⟩ := exists_parse spaced_indented within blank_newline
  have text : (e.pretty ++ "\n").toList = e.layout.write .indented 0 ++ ['\n'] := by
    simp [toList_pretty]
  rw [← text] at parsed
  have read := parse_complete shape_extensible parsed (keys distinct) (value ▸ fits_toJson h)
  rw [value] at read
  exact Decoder.ofText_eq_ok.mpr ⟨_, read, ofJson_toJson h⟩

end Environment

end Workspace
