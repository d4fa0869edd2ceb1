import Workspace.Proofs.Edit

/-! What a run comes to, whatever keeps the files. Either its task makes a text of the document,
which is then printed or written, or something fails on the way, and then nothing is printed
and the files stay. -/
namespace Workspace.Command
open Json Translator

variable {fs : FileSystem} {i : Invocation} {s : Surroundings fs} {out name : String}
  {e : Environment} {dev : DevAgents}

lemma textOf_toUTF8 (text : String) : textOf text.toUTF8 = .ok text := by
  have same : String.fromUTF8? text.toUTF8 = some text := dif_pos text.isValidUTF8
  rw [textOf, same]

lemma documentText_toUTF8 (path text : String) :
    documentText path (.ok text.toUTF8) = .ok text := by
  have decoded : (Except.ok text.toUTF8 : Except FileFault ByteArray).bind textOf = .ok text :=
    textOf_toUTF8 text
  rw [documentText, decoded]

/-! Where a text goes. -/

namespace Surroundings

/-- A text that the standard input is, is read from it. -/
lemma read_input {path text : String} (dash : isInput path = true)
    (input : s.input = (text : Input)) : s.read path = .ok text := by
  rw [read, bytes, if_pos dash, input]
  exact documentText_toUTF8 path text

/-- A text that a file holds is read from it. -/
lemma read_file {path text : String} (file : isInput path = false)
    (holds : fs.read s.files path = .ok text.toUTF8) : s.read path = .ok text := by
  rw [read, bytes, file, if_neg Bool.false_ne_true, holds]
  exact documentText_toUTF8 path text

/-- What is left when a text was printed or written. -/
def deliver (s : Surroundings fs) (events : List Event) (output : Option String)
    (text : String) : Outcome fs :=
  .of (s.host.deliver output text ⟨"", events, s.files⟩)

variable {events : List Event} {path text : String} {after : fs.State}

lemma deliver_printed :
    s.deliver events none text = ⟨⟨text ++ "\n", events, s.files⟩, none⟩ := by
  have output : "" ++ (text ++ "\n") = text ++ "\n" := String.empty_append
  rw [← output]
  rfl

lemma deliver_written (h : fs.write s.files path (text ++ "\n") = (.ok (), after)) :
    s.deliver events (some path) text = ⟨⟨"", events ++ [.wrote path], after⟩, none⟩ := by
  simp only [deliver, host, Host.deliver, bind, StateT.bind, h]
  rfl

lemma deliver_failed {fault : FileFault}
    (h : fs.write s.files path (text ++ "\n") = (.error fault, after)) :
    s.deliver events (some path) text =
      ⟨⟨"", events, after⟩, some (.unwritable path fault)⟩ := by
  simp only [deliver, host, Host.deliver, bind, StateT.bind, h]
  rfl

end Surroundings

/-- The document can be read, and the task makes this text of it. -/
def Invocation.Answers (i : Invocation) (s : Surroundings fs) (out : String) : Prop :=
  ∃ text e, s.read i.document = .ok text ∧ Environment.decoder.ofText text = .ok e ∧
    (i.task.apply (.ofVariables s.lookup) e).1 = .ok out

lemma decodeDocument_eq_ok {path text : String} :
    decodeDocument path text = .ok e ↔ Environment.decoder.ofText text = .ok e := by
  rw [decodeDocument]
  cases Environment.decoder.ofText text <;> simp

namespace Invocation

lemma run_eq (i : Invocation) (s : Surroundings fs) : i.run s =
    .of (i.proceed s.lookup s.host (s.bytes i.document) ⟨"", [], s.files⟩) := by
  unfold run perform Host.read Surroundings.bytes
  split
  · rfl
  · rfl

/-- Every run ends in one of two ways. -/
lemma run_cases (i : Invocation) (s : Surroundings fs) :
    (∃ out events, i.Answers s out ∧ i.run s = s.deliver events i.output out) ∨
      (∀ out, ¬i.Answers s out) ∧
        ∃ failure events, i.run s = ⟨⟨"", events, s.files⟩, some failure⟩ := by
  rw [run_eq, proceed]
  cases document : (documentText i.document (s.bytes i.document)).bind
      (decodeDocument i.document) with
  | error failure =>
    refine Or.inr ⟨?_, failure, [], rfl⟩
    rintro out ⟨text, e, read, decoded, _⟩
    rw [Surroundings.read] at read
    rw [read] at document
    cases document.symm.trans (decodeDocument_eq_ok.mpr decoded)
  | ok e =>
    obtain ⟨text, read, decoded⟩ := bind_eq_ok.mp document
    have decoded := decodeDocument_eq_ok.mp decoded
    cases applied : i.task.apply (.ofVariables s.lookup) e with
    | mk result events =>
      dsimp only
      rw [applied]
      cases result with
      | ok out => exact Or.inl ⟨out, events, ⟨text, e, read, decoded, by rw [applied]⟩, rfl⟩
      | error failure =>
        refine Or.inr ⟨?_, failure, events, rfl⟩
        rintro out ⟨text', e', read', decoded', answer⟩
        cases read.symm.trans read'
        cases decoded.symm.trans decoded'
        rw [applied] at answer
        cases answer

lemma Answers.unique {out' : String} (h : i.Answers s out) (h' : i.Answers s out') :
    out = out' := by
  obtain ⟨text, e, read, decoded, answer⟩ := h
  obtain ⟨text', e', read', decoded', answer'⟩ := h'
  cases read.symm.trans read'
  cases decoded.symm.trans decoded'
  exact Except.ok.inj (answer.symm.trans answer')

lemma Answers.run_eq (h : i.Answers s out) :
    ∃ events, i.run s = s.deliver events i.output out := by
  rcases i.run_cases s with ⟨out', events, answers, run⟩ | ⟨none, _⟩
  · exact ⟨events, h.unique answers ▸ run⟩
  · exact absurd h (none out)

/-- A run that succeeds has a text. -/
lemma answers_of_success (h : (i.run s).failure = none) : ∃ out, i.Answers s out := by
  rcases i.run_cases s with ⟨out, _, answers, _⟩ | ⟨_, failure, events, run⟩
  · exact ⟨out, answers⟩
  · rw [run] at h
    cases h

end Invocation

/-! Which tasks make a text of a document. -/

lemma exists_of_editFirst? {edit : Machine → Machine} {machines edited : List Machine}
    (h : editFirst? name edit machines = some edited) : ∃ m ∈ machines, m.name = name := by
  induction machines generalizing edited with
  | nil => cases h
  | cons m rest ih =>
    rw [editFirst?] at h
    split at h
    · rename_i here
      exact ⟨m, List.mem_cons_self, here⟩
    · obtain ⟨_, found, _⟩ := Option.map_eq_some_iff.mp h
      obtain ⟨n, hn, here⟩ := ih found
      exact ⟨n, List.mem_cons_of_mem m hn, here⟩

/-- Only a machine that there is is edited, and then its config is another. -/
lemma editMachine_eq_ok_iff {edit : Machine → Machine} {r : Environment}
    (keeps : ∀ m, (edit m).name = m.name) :
    editMachine (dockerImage dev) name edit e = .ok r ↔ ∃ c, e.machines.get? name = some c ∧
      e.insertMachine name (.merge (some c) (edit (machineOf e.recipe name c))) = r := by
  constructor
  · intro edited
    have there : name ∈ e.names := by
      rw [editMachine] at edited
      split at edited
      · rename_i found
        exact exists_imageMachines.mp (exists_of_editFirst? found)
      · cases edited
    obtain ⟨c, hc⟩ := Option.ne_none_iff_exists'.mp (Environment.mem_names.mp there)
    rw [editMachine_eq dev hc edit keeps] at edited
    exact ⟨c, hc, Except.ok.inj edited⟩
  · rintro ⟨c, hc, rfl⟩
    exact editMachine_eq dev hc edit keeps

lemma editMachine_ok_iff {edit : Machine → Machine} (keeps : ∀ m, (edit m).name = m.name) :
    (∃ r, editMachine (dockerImage dev) name edit e = .ok r) ↔ name ∈ e.names := by
  simp [editMachine_eq_ok_iff keeps, Environment.mem_names, Option.ne_none_iff_exists']

namespace Task

/-- The machine that is edited. -/
def machine? : Task → Option String
  | .setMemory name _ | .setDev name _ => some name
  | _ => none

/-- What no translator of images does. -/
def refused : Task → Bool
  | .rename .. | .delete .. => true
  | _ => false

lemma exists_map_eq_ok {ε α β : Type} {x : Except ε α} {f : α → β} :
    (∃ b, x.map f = .ok b) ↔ ∃ a, x = .ok a := by
  cases x <;> simp [Except.map]

lemma result_ok_iff (task : Task) :
    (∃ out, task.result (dockerImage dev) e = .ok out) ↔
      task.refused = false ∧ ∀ name, task.machine? = some name → name ∈ e.names := by
  cases task with
  | machines | capabilities => simp [result, refused, machine?]
  | rename | delete => simp [result, refused, renameMachine, deleteMachine]
  | setMemory name bytes =>
    have edited : (∃ r, editMachine (dockerImage dev) name (Machine.setMemoryLimit bytes) e =
        .ok r) ↔ name ∈ e.names := editMachine_ok_iff fun _ => rfl
    simp [result, refused, machine?, exists_map_eq_ok, edited]
  | setDev name enabled =>
    have edited : (∃ r, editMachine (dockerImage dev) name ((dockerImage dev).setDev enabled) e =
        .ok r) ↔ name ∈ e.names := editMachine_ok_iff fun _ => rfl
    simp [result, refused, machine?, exists_map_eq_ok, edited]

lemma apply_ok_iff (task : Task) :
    (∃ out, (task.apply dev e).1 = .ok out) ↔ e.recipe.type = .dockerImage ∧
      task.refused = false ∧ ∀ name, task.machine? = some name → name ∈ e.names := by
  rw [apply]
  cases type : e.recipe.type with
  | dockerImage => simpa [select] using task.result_ok_iff
  | dockerfile | compose | other => simp [select]

end Task
end Workspace.Command
