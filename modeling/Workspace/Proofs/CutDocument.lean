import Workspace.Proofs.CutText
import Workspace.Proofs.DocumentWritten

/-! Documents whose text is cut, as it is when writing one was interrupted. Where no extra has the
key of a field, no part of the text of a document is read as a document or found to be wrong in
itself: wherever it ends, it ends too early. -/
namespace Workspace
open Json Json.Layout

/-- No extra has the key of a field. -/
structure Environment.Unshadowed (e : Environment) : Prop where
  recipe : e.recipe.extra.Lacks ["type", "location"]
  machines : ∀ name c, e.machines.get? name = some c →
    c.extra.Lacks ["attributes", "agents", "servers"]
  extra : e.extra.Lacks ["recipe", "machines"]

namespace Environment
variable {e : Environment}

/-- Whatever the recipe's type, it is written as the type that is read from it. -/
lemma Unshadowed.exists_wellFormed (h : e.Unshadowed) :
    ∃ f : Environment, f.WellFormed ∧ f.layout = e.layout := by
  refine ⟨{ e with recipe := { e.recipe with type := .ofText e.recipe.type.text } },
    ⟨⟨RecipeType.canonical_ofText _, h.recipe⟩, h.machines, h.extra⟩, ?_⟩
  simp [layout, machinesMember, Recipe.layout, RecipeType.layout, RecipeType.text_ofText]

/-- A text that was cut is never taken for a whole one, nor for one that is wrong in some other
way: wherever the text of a document is cut, what is left of it is cut off. -/
theorem ofText_cut (e : Environment) (h : e.Unshadowed)
    (nested : nesting e.pretty.toList ≤ nestingLimit) (p : String)
    (part : p.toList <+: e.pretty.toList) (cut : p ≠ e.pretty) :
    ∃ fault, decoder.ofText p = .error fault ∧ fault.category = .cutOff := by
  obtain ⟨f, wellFormed, same⟩ := h.exists_wellFormed
  have cut : p.toList ≠ e.pretty.toList := fun equal => cut (String.toList_injective equal)
  rw [toList_pretty, ← same] at nested part cut
  have within : f.layout.Within (126 + 1) := (within_iff_nesting spaced_indented 0).mpr nested
  obtain ⟨inside, read⟩ : CutOff (shape.read (126 + 1) p.toList) :=
    cutOff_record spaced_indented (tells_layouts spaced_indented 126) shape_extensible within
      (keysDistinct wellFormed) (fits_toJson wellFormed) part cut
  have parsed : shape.parse p.toList = .error (.cutOff inside) := by
    rw [Shape.parse, nestingLimit, read]
    rfl
  refine ⟨.cutOff inside, ?_, rfl⟩
  rw [Decoder.ofText, decoder, parsed]
  rfl

/-- A cut may leave a number of a number. -/
theorem ofText_cut_number :
    let size : Number := .double ⟨false, 5629499534213120, 1023, by decide⟩
    let e : Environment := ⟨⟨.other "compose", .absent, .ofList [("content", .number size)]⟩,
      .empty, .empty, .absent⟩
    let p := "\x7b\n  \"recipe\": \x7b\n    \"type\": \"compose\",\n    \"content\": 2"
    p.toList ++ ".5\n  \x7d\n\x7d".toList = e.pretty.toList ∧
      ∃ fault, decoder.ofText p = .error fault ∧ fault.category = .cutOff := by
  intro size e p
  have text : p.toList ++ ".5\n  \x7d\n\x7d".toList = e.pretty.toList := by
    rw [toList_pretty]
    decide +kernel
  have lacks : e.Unshadowed := by
    refine ⟨?_, ?_, fun _ _ => rfl⟩
    · intro key hkey
      simp only [List.mem_cons, List.not_mem_nil, or_false] at hkey
      rcases hkey with rfl | rfl <;> rfl
    · intro name c hc
      cases hc
  have nested : nesting e.pretty.toList ≤ nestingLimit := by
    rw [← text]
    decide +kernel
  refine ⟨text, ofText_cut e lacks nested p ⟨_, text⟩ ?_⟩
  intro same
  rw [← same] at text
  simp at text

end Environment

end Workspace
