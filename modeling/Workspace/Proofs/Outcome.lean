import Workspace.Proofs.EditedText

/-! When a command succeeds, and what it changes. It succeeds just if nothing stands in its way
from the document to the output. A command that fails prints nothing and changes no file; one
that succeeds prints a text and changes no file, or prints nothing and changes the file that
it was told to write, which then holds what would have been printed. Of what keeps the files it
is only assumed that a write does what it says, or nothing. -/
namespace Workspace.Command
open Json Translator

variable {fs : FileSystem}

/-! The files that there are. -/

/-- What there is to be seen of files: what they hold, and to which of them a path leads. -/
structure FileView (State : Type) where
  File : Type
  content? : State → File → Option ByteArray
  file? : State → String → Option File

namespace FileView
variable {State : Type}

/-- Every file is as it was. -/
def Kept (view : FileView State) (before after : State) : Prop :=
  ∀ file, view.content? after file = view.content? before file

/-- The file of the path holds the text, and every other file is as it was. -/
def Put (view : FileView State) (path text : String) (before after : State) : Prop :=
  ∃ file, view.file? after path = some file ∧ view.content? after file = some text.toUTF8 ∧
    ∀ other, other ≠ file → view.content? after other = view.content? before other

end FileView

/-- A write that fails leaves the files as they were, and one that succeeds changes no other
file than that of its path. -/
structure FileSystem.Lawful (fs : FileSystem) (view : FileView fs.State) : Prop where
  failed {before after : fs.State} {path text : String} {fault : FileFault} :
    fs.write before path text = (.error fault, after) → view.Kept before after
  written {before after : fs.State} {path text : String} :
    fs.write before path text = (.ok (), after) → view.Put path text before after

namespace Directory
variable {d after : Directory} {path text : String}

/-- The files of a directory are its names. -/
abbrev view : FileView Directory where
  File := String
  content? d name := (d.files.get? name).map String.toUTF8
  file? _ path :=
    match placeOf path with
    | .file name => some name
    | _ => none

/-- What is written becomes the content of one file. -/
lemma write_eq_ok : d.write path text = .ok after ↔
    (isLongPath path = false ∧ ∃ name, placeOf path = .file name ∧ isLongName name = false ∧
      after = ⟨Dict.insert d.files name text⟩) := by
  rw [write]
  cases isLongPath path with
  | true => simp
  | false =>
    cases placeOf path with
    | file name =>
      simp only [Place.file.injEq, exists_eq_left', true_and]
      cases isLongName name with
      | true => simp
      | false => simp [@eq_comm _ after]
    | folder | folderName | outside | below => simp

lemma put_of_write (h : d.write path text = .ok after) : view.Put path text d after := by
  obtain ⟨_, name, place, _, rfl⟩ := write_eq_ok.mp h
  have stored (other : String) :
      view.content? ⟨Dict.insert d.files name text⟩ other =
        (if other = name then some text else d.files.get? other).map String.toUTF8 :=
    congrArg (Option.map String.toUTF8) (Dict.get?_insert d.files name text other)
  refine ⟨name, by simp only [view, place], ?_, fun other hne => ?_⟩
  · rw [stored, if_pos rfl]
    rfl
  · rw [stored, if_neg hne]

lemma lawful : system.Lawful view where
  failed {before after path text fault} h := by
    cases written : before.write path text with
    | ok _ => simp [written] at h
    | error _ =>
      obtain ⟨_, rfl⟩ : _ ∧ before = after := by simpa [written] using h
      exact fun _ => rfl
  written {before after path text} h := by
    cases written : before.write path text with
    | ok _ =>
      obtain rfl : _ = after := by simpa [written] using h
      exact put_of_write written
    | error _ => simp [written] at h

/-- A directory that is read, while there is no room left to write. -/
abbrev full : FileSystem :=
  { system with write := fun d _ _ => (.error (.system 28 "No space left on device"), d) }

lemma lawful_full : full.Lawful view where
  failed h := by
    cases h
    exact fun _ => rfl
  written h := by cases h

end Directory

/-! What comes of a text. -/

lemma text_eq_dockerimage {t : RecipeType} (h : t.Canonical) :
    t.text = "dockerimage" ↔ t = .dockerImage := by
  constructor
  · intro same
    rw [← RecipeType.ofText_text h, same]
    rfl
  · rintro rfl
    rfl

namespace Invocation
variable {i : Invocation} {s : Surroundings fs} {out : String}

/-- There is a text just if the document can be read and decoded, is made of an image, and the
task is one that is offered, on a machine that there is. -/
lemma exists_answers_iff : (∃ out, i.Answers s out) ↔
    ∃ text e, s.read i.document = .ok text ∧ Environment.decoder.ofText text = .ok e ∧
      e.recipe.type.text = "dockerimage" ∧ i.task.refused = false ∧
      ∀ name, i.task.machine? = some name → name ∈ e.names := by
  constructor
  · rintro ⟨out, text, e, read, decoded, answer⟩
    have canonical := (Environment.of_text decoded).1.recipe.type
    obtain ⟨type, offered⟩ := i.task.apply_ok_iff.mp ⟨out, answer⟩
    exact ⟨text, e, read, decoded, (text_eq_dockerimage canonical).mpr type, offered⟩
  · rintro ⟨text, e, read, decoded, type, offered⟩
    have canonical := (Environment.of_text decoded).1.recipe.type
    have type := (text_eq_dockerimage canonical).mp type
    obtain ⟨out, answer⟩ := i.task.apply_ok_iff.mpr ⟨type, offered⟩
    exact ⟨out, text, e, read, decoded, answer⟩

/-- All the ways in which a run can end. -/
inductive Ends (i : Invocation) (s : Surroundings fs) : Outcome fs → Prop where
  | printed {out : String} {events : List Event} : i.Answers s out → i.output = none →
    Ends i s ⟨⟨out ++ "\n", events, s.files⟩, none⟩
  | written {out path : String} {events : List Event} {after : fs.State} : i.Answers s out →
    i.output = some path → fs.write s.files path (out ++ "\n") = (.ok (), after) →
    Ends i s ⟨⟨"", events, after⟩, none⟩
  | unwritable {out path : String} {events : List Event} {after : fs.State} {fault : FileFault} :
    i.Answers s out → i.output = some path →
    fs.write s.files path (out ++ "\n") = (.error fault, after) →
    Ends i s ⟨⟨"", events, after⟩, some (.unwritable path fault)⟩
  | failed {events : List Event} {failure : Failure} : (∀ out, ¬i.Answers s out) →
    Ends i s ⟨⟨"", events, s.files⟩, some failure⟩

lemma ends_run (i : Invocation) (s : Surroundings fs) : i.Ends s (i.run s) := by
  rcases i.run_cases s with ⟨out, events, answers, run⟩ | ⟨none, failure, events, run⟩
  · rw [run]
    cases target : i.output with
    | none =>
      rw [Surroundings.deliver_printed]
      exact .printed answers target
    | some path =>
      cases write : fs.write s.files path (out ++ "\n") with
      | mk result after =>
        cases result with
        | ok =>
          rw [Surroundings.deliver_written write]
          exact .written answers target write
        | error fault =>
          rw [Surroundings.deliver_failed write]
          exact .unwritable answers target write
  · rw [run]
    exact .failed none

/-- A run succeeds just if there is a text and it can be written where it is to go. -/
lemma succeeds_iff : (i.run s).failure = none ↔
    ∃ out, i.Answers s out ∧ ∀ path, i.output = some path →
      (fs.write s.files path (out ++ "\n")).1 = .ok () := by
  have ends := i.ends_run s
  generalize i.run s = o at ends ⊢
  cases ends with
  | printed answers target =>
    refine ⟨fun _ => ⟨_, answers, fun path named => ?_⟩, fun _ => rfl⟩
    rw [target] at named
    cases named
  | written answers target write =>
    refine ⟨fun _ => ⟨_, answers, fun path named => ?_⟩, fun _ => rfl⟩
    rw [target] at named
    cases named
    rw [write]
  | unwritable answers target write =>
    constructor
    · rintro ⟨⟩
    · rintro ⟨out, answers', writes⟩
      have written := writes _ target
      rw [answers'.unique answers, write] at written
      cases written
  | failed none =>
    constructor
    · rintro ⟨⟩
    · rintro ⟨out, answers, _⟩
      exact absurd answers (none out)

end Invocation

/-- A run succeeds just if the document can be read and decoded, its recipe is of the type that
there is a translator for, the task is not one that the translator refuses, the machine to
be edited is there, and the output can be written. If it fails nothing is printed and no file
changes. Otherwise, without an output, no file changes; with one nothing is printed, and what
would have been is the content of the one file that changes. -/
theorem run_outcome {view : FileView fs.State} (lawful : fs.Lawful view) (i : Invocation)
    (s : Surroundings fs) :
    let o := i.run s
    let printed := ({ i with output := none }.run s).output
    (o.failure = none ↔ (∃ text e, s.read i.document = .ok text ∧
      Environment.decoder.ofText text = .ok e ∧ e.recipe.type.text = "dockerimage" ∧
      i.task.refused = false ∧ ∀ name, i.task.machine? = some name → name ∈ e.names) ∧
      ∀ path, i.output = some path → (fs.write s.files path printed).1 = .ok ()) ∧
    (o.failure ≠ none → o.output = "" ∧ view.Kept s.files o.files) ∧
    (i.output = none → o.files = s.files) ∧
    ∀ path, o.failure = none → i.output = some path →
      o.output = "" ∧ view.Put path printed s.files o.files := by
  intro o printed
  have same (out : String) (answers : i.Answers s out) : printed = out ++ "\n" := by
    obtain ⟨events, run⟩ := Invocation.Answers.run_eq (i := { i with output := none }) answers
    rw [Surroundings.deliver_printed] at run
    exact congrArg (fun o => o.output) run
  have ends : i.Ends s o := i.ends_run s
  refine ⟨?succeeds, ?failed, ?kept, ?written⟩
  case succeeds =>
    rw [Invocation.succeeds_iff, ← Invocation.exists_answers_iff]
    constructor
    · rintro ⟨out, answers, writes⟩
      rw [same out answers]
      exact ⟨⟨out, answers⟩, writes⟩
    · rintro ⟨⟨out, answers⟩, writes⟩
      rw [same out answers] at writes
      exact ⟨out, answers, writes⟩
  case failed =>
    intro failure
    clear_value o
    cases ends with
    | printed | written => exact absurd rfl failure
    | unwritable _ _ write => exact ⟨rfl, lawful.failed write⟩
    | failed => exact ⟨rfl, fun _ => rfl⟩
  case kept =>
    intro none
    clear_value o
    cases ends with
    | printed | failed => rfl
    | written _ target | unwritable _ target =>
      rw [none] at target
      cases target
  case written =>
    intro path success target
    clear_value o
    cases ends with
    | printed _ none =>
      rw [none] at target
      cases target
    | written answers there write =>
      cases there.symm.trans target
      rw [same _ answers]
      exact ⟨rfl, lawful.written write⟩
    | unwritable | failed => cases success

/-- A document edited in place, under another spelling of its path; a machine that is not
deleted from it; and the same edit where there is no room left to write. -/
theorem run_outcome_in_place :
    let text := "\x7b\"recipe\":\x7b\"type\":\"dockerimage\"\x7d,\"machines\":" ++
      "\x7b\"web\":\x7b\x7d\x7d\x7d"
    let files : Directory := ⟨.ofList [("a.json", text), ("b.json", "")]⟩
    let s : Surroundings := ⟨files, "", fun _ => none⟩
    let full : Surroundings Directory.full := ⟨files, "", fun _ => none⟩
    let edit : Invocation := ⟨false, false, .setMemory "web" 512, "a.json", some "./a.json"⟩
    let deletion : Invocation := ⟨false, false, .delete "web", "a.json", some "./a.json"⟩
    let view := Directory.view
    ((edit.run s).failure = none ∧ (edit.run s).output = "" ∧
      view.content? (edit.run s).files "a.json" =
        some ({ edit with output := none }.run s).output.toUTF8 ∧
      view.content? (edit.run s).files "b.json" = view.content? files "b.json") ∧
    ((deletion.run s).failure ≠ none ∧ view.Kept files (deletion.run s).files) ∧
    (edit.run full).failure ≠ none ∧ (edit.run full).output = "" ∧
      view.Kept files (edit.run full).files := by
  intro text files s full edit deletion view
  have stored : files.read "a.json" = .ok text := by decide +kernel
  have read : s.read "a.json" = .ok text :=
    Surroundings.read_file (by decide +kernel) (congrArg (Except.map String.toUTF8) stored)
  have checked : (Environment.decoder.ofText text).toOption.any (fun e =>
      decide (e.recipe.type.text = "dockerimage" ∧ "web" ∈ e.names)) = true := by decide +kernel
  obtain ⟨e, decoded, checked⟩ := exists_ok_of_any checked
  obtain ⟨type, web⟩ := of_decide_eq_true checked
  refine ⟨?edited, ?deleted, ?full⟩
  case edited =>
    obtain ⟨succeeds, _, _, written⟩ := run_outcome Directory.lawful edit s
    have success : (edit.run s).failure = none := by
      refine succeeds.mpr ⟨⟨text, e, read, decoded, type, rfl, ?_⟩, ?_⟩
      · rintro name ⟨⟩
        exact web
      · rintro path ⟨⟩
        rfl
    obtain ⟨silent, file, there, content, others⟩ := written "./a.json" success rfl
    have here : view.file? (edit.run s).files "./a.json" = some "a.json" := by
      have place : placeOf "./a.json" = .file "a.json" := by decide +kernel
      simp only [view, Directory.view, place]
    cases here.symm.trans there
    exact ⟨success, silent, content, others "b.json" (by decide)⟩
  case deleted =>
    obtain ⟨succeeds, failed, _⟩ := run_outcome Directory.lawful deletion s
    have failure : (deletion.run s).failure ≠ none := by
      intro success
      obtain ⟨⟨_, _, _, _, _, offered, _⟩, _⟩ := succeeds.mp success
      cases offered
    exact ⟨failure, (failed failure).2⟩
  case full =>
    obtain ⟨succeeds, failed, _⟩ := run_outcome Directory.lawful_full edit full
    have failure : (edit.run full).failure ≠ none := by
      intro success
      obtain ⟨_, writes⟩ := succeeds.mp success
      cases writes "./a.json" rfl
    exact ⟨failure, failed failure⟩

end Workspace.Command
