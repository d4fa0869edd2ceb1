import Workspace.Proofs.TextReading

/-! Documents from texts and from values. A text gives the document that its value gives; a
value gives the document that a text of it gives, if no object of the text repeats a key.
Where one does, the two may differ: a known field may stand once only in a text, and a
machine that a later one of the same name replaces is decoded all the same. -/
namespace Workspace
open Json

namespace Json

/-- The text spells out a layout in which no object repeats a key. -/
def RepeatsNoKey (text : String) : Prop :=
  ∃ l, Layout.parse text.toList = .ok l ∧ l.KeysDistinct

namespace Decoder
variable {α : Type} {d : Decoder α} {text : String} {a : α}

lemma ofText_eq_ok :
    d.ofText text = .ok a ↔ ∃ v, d.shape.parse text.toList = .ok v ∧ d.make v = a := by
  unfold ofText
  cases d.shape.parse text.toList <;> simp [Except.map]

/-- What is made of a text is made of its value. -/
lemma value_of_text (ext : d.shape.Extensible) (h : d.ofText text = .ok a) :
    ∃ v, Shape.any.parse text.toList = .ok v ∧ d.ofValue v = .ok a := by
  obtain ⟨v, parsed, made⟩ := ofText_eq_ok.mp h
  obtain ⟨any, fits⟩ := parse_sound ext parsed
  exact ⟨v, any, ofValue_eq_ok.mpr ⟨fits, made⟩⟩

/-- What is made of the value of a text that repeats no key is made of the text. -/
lemma text_of_value (ext : d.shape.Extensible) (distinct : RepeatsNoKey text) {v : Json}
    (parsed : Shape.any.parse text.toList = .ok v) (h : d.ofValue v = .ok a) :
    d.ofText text = .ok a := by
  obtain ⟨fits, made⟩ := ofValue_eq_ok.mp h
  obtain ⟨l, outline, distinct⟩ := distinct
  obtain rfl : l.toJson = v := by
    rw [Layout.parse_any, outline] at parsed
    exact Except.ok.inj parsed
  exact ofText_eq_ok.mpr ⟨l.toJson, parse_complete ext outline distinct fits, made⟩

end Decoder

end Json

lemma Recipe.shape_extensible : Recipe.shape.Extensible := by
  refine .record (by decide) fun f hf => ?_
  simp only [List.mem_cons, List.not_mem_nil, or_false] at hf
  rcases hf with rfl | rfl
  · exact .string
  · exact .string

lemma MachineConfig.shape_extensible : MachineConfig.shape.Extensible := by
  refine .record (by decide) fun f hf => ?_
  simp only [List.mem_cons, List.not_mem_nil, or_false] at hf
  rcases hf with rfl | rfl | rfl
  · exact .dict .any
  · exact .list .string
  · exact .dict (.dict .any)

namespace Environment

lemma shape_extensible : Environment.shape.Extensible := by
  refine .record (by decide) fun f hf => ?_
  simp only [List.mem_cons, List.not_mem_nil, or_false] at hf
  rcases hf with rfl | rfl
  · exact Recipe.shape_extensible
  · exact .dict MachineConfig.shape_extensible

/-- A text and its value give the same document, the value where no key is repeated. -/
theorem text_value_agree (text : String) (e : Environment) :
    (Environment.decoder.ofText text = .ok e →
      ∃ v, Shape.any.parse text.toList = .ok v ∧ Environment.decoder.ofValue v = .ok e) ∧
    (RepeatsNoKey text → ∀ v, Shape.any.parse text.toList = .ok v →
      Environment.decoder.ofValue v = .ok e → Environment.decoder.ofText text = .ok e) := by
  constructor
  · exact Decoder.value_of_text shape_extensible
  · intro distinct v parsed decoded
    exact Decoder.text_of_value shape_extensible distinct parsed decoded

/-- A further member that stands twice is read by its last value; and a value is read from
a text whose members are not in the order of their keys. -/
theorem text_value_agree_repeated :
    let twice := "\x7b\"x\":true,\"recipe\":\x7b\"type\":\"a\"\x7d,\"x\":null\x7d"
    let once := "\x7b \"recipe\": \x7b\"type\": \"a\"\x7d, \"machines\": null \x7d"
    (∃ e v, Environment.decoder.ofText twice = .ok e ∧ Environment.decoder.ofValue v = .ok e ∧
      v.asDict.get? "x" = some .null) ∧
    ∃ e v, Environment.decoder.ofValue v = .ok e ∧ v.asDict.get? "machines" = some .null ∧
      Environment.decoder.ofText once = .ok e := by
  intro twice once
  have decoded {x : Except Fault Environment} (h : x.isOk = true) : ∃ e, x = .ok e := by
    cases x with
    | error _ => cases h
    | ok e => exact ⟨e, rfl⟩
  constructor
  · obtain ⟨e, he⟩ := decoded (x := Environment.decoder.ofText twice) (by decide +kernel)
    obtain ⟨v, parsed, same⟩ := (text_value_agree twice e).1 he
    have outline : Layout.parse twice.toList = .ok (.record [("x", .value (.bool true)),
        ("recipe", .record [("type", .value (.string "a"))]), ("x", .value .null)]) := by
      unfold twice
      rfl
    rw [Layout.parse_any, outline] at parsed
    cases parsed
    exact ⟨e, _, he, same, rfl⟩
  · let l : Layout := .record [
      ("recipe", .record [("type", .value (.string "a"))]), ("machines", .value .null)]
    have outline : Layout.parse once.toList = .ok l := by
      unfold once
      rfl
    have distinct : l.KeysDistinct := by
      refine .record (by decide) ?_
      simp only [List.forall_mem_cons, List.not_mem_nil, false_implies, implies_true, and_true]
      exact ⟨.record (by decide) (by simpa using .value _), .value _⟩
    have parsed : Shape.any.parse once.toList = .ok l.toJson := by
      rw [Layout.parse_any, outline]
      rfl
    obtain ⟨e, he⟩ := decoded (x := Environment.decoder.ofValue l.toJson) (by decide +kernel)
    exact ⟨e, l.toJson, he, rfl,
      (text_value_agree once e).2 ⟨l, outline, distinct⟩ l.toJson parsed he⟩

end Environment

end Workspace
