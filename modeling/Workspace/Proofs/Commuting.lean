import Workspace.Proofs.DevFlag

/-! Edits one after the other. An edit changes the config of one machine, and what it prints is
read as the document with that change. So edits that are fed to each other are changes of one
document: two of them can be swapped where they change different machines or different fields,
a later limit hides an earlier one, and a flag that is set stays as it is. -/
namespace Workspace
open Json Machine MachineConfig Translator Command

lemma Dict.insert_insert {α : Type} (m : Dict α) (k : String) (a b : α) :
    (m.insert k a).insert k b = m.insert k b := by
  apply Chain.ext_get?
  intro k'
  simp only [Dict.get?_insert]
  split <;> rfl

lemma Dict.insert_comm {α : Type} (m : Dict α) {k l : String} (h : k ≠ l) (a b : α) :
    (m.insert k a).insert l b = (m.insert l b).insert k a := by
  apply Chain.ext_get?
  intro k'
  simp only [Dict.get?_insert]
  by_cases hk : k' = k
  · subst hk
    simp [h]
  · simp [hk]

namespace Machine
variable {dev : DevAgents} {agents : Agents}

/-- Where all that is to be installed is there, nothing is. -/
lemma foldl_install_self {new : Agents} (there : ∀ a ∈ new, a ∈ agents) :
    new.foldl install agents = agents := by
  induction new with
  | nil => rfl
  | cons a new ih =>
    rw [List.forall_mem_cons] at there
    rw [List.foldl_cons, install, if_pos (List.contains_iff_mem.mpr there.1)]
    exact ih there.2

/-- The agents with the developer agents installed, or with the workspace agent taken out. -/
def flagged (dev : DevAgents) (flag : Bool) (agents : Agents) : Agents :=
  if flag then dev.installOrder.foldl install agents else agents.erase dev.workspace

lemma flagged_true_ne_nil : flagged dev true agents ≠ [] := by
  have there : dev.workspace ∈ flagged dev true agents :=
    mem_foldl_install.mpr (Or.inr List.mem_cons_self)
  exact List.ne_nil_of_mem there

lemma flagged_true_twice : flagged dev true (flagged dev true agents) = flagged dev true agents :=
  foldl_install_self fun _ ha => mem_foldl_install.mpr (Or.inr ha)

end Machine

/-! What the two edits make of a config. -/

namespace MachineConfig
variable {dev : DevAgents} {recipe : Recipe} {name : String} {c : MachineConfig}

/-- With a limit, in attributes that are made where there are none. -/
def putLimit (bytes : Int64) (c : MachineConfig) : MachineConfig :=
  { c with
    attributes := .set (Dict.insert (c.attributes.get?.getD .empty) limitKey (.ofInt64 bytes)) }

/-- With the flag set or cleared; where no agents are left to write, none are made. -/
def putFlag (dev : DevAgents) (flag : Bool) (c : MachineConfig) : MachineConfig :=
  let agents := flagged dev flag (c.agents.get?.getD [])
  { c with agents := mergeField false agents.isEmpty c.agents agents }

lemma merge_limit (bytes : Int64) :
    merge (some c) ((machineOf recipe name c).setMemoryLimit bytes) = c.putLimit bytes :=
  merge_setMemoryLimit bytes

lemma merge_flag (flag : Bool) :
    merge (some c) ((machineOf recipe name c).setDev dev flag) = c.putFlag dev flag :=
  merge_agents _

lemma putLimit_putLimit (a b : Int64) : (c.putLimit a).putLimit b = c.putLimit b := by
  simp [putLimit, Presence.get?, Dict.insert_insert]

/-- The limit and the agents are different fields. -/
lemma putFlag_putLimit (bytes : Int64) (flag : Bool) :
    (c.putLimit bytes).putFlag dev flag = (c.putFlag dev flag).putLimit bytes := rfl

lemma putFlag_true : c.putFlag dev true =
    { c with agents := .set (flagged dev true (c.agents.get?.getD [])) } := by
  have some : (flagged dev true (c.agents.get?.getD [])).isEmpty = false :=
    List.isEmpty_eq_false_iff.mpr flagged_true_ne_nil
  simp [putFlag, mergeField, some]

lemma putFlag_true_twice : (c.putFlag dev true).putFlag dev true = c.putFlag dev true := by
  rw [putFlag_true, putFlag_true]
  exact congrArg (fun agents => { c with agents := .set agents }) flagged_true_twice

end MachineConfig

/-! Changes of a document. -/

namespace Environment
variable {e r : Environment} {name other : String} {f g : MachineConfig → MachineConfig}

/-- The document with one config changed, if it is made of an image and has the machine. -/
def change? (name : String) (f : MachineConfig → MachineConfig) (e : Environment) :
    Option Environment :=
  if e.recipe.type = .dockerImage then
    (e.machines.get? name).map fun c => e.insertMachine name (f c)
  else none

lemma change?_change? :
    (e.change? name f).bind (change? name g) = e.change? name (g ∘ f) := by
  by_cases type : e.recipe.type = .dockerImage
  · cases hc : e.machines.get? name with
    | none => simp [change?, type, hc]
    | some c => simp [change?, type, hc, insertMachine, Dict.get?_insert, Dict.insert_insert]
  · simp [change?, type]

/-- Changes of one machine that commute as changes of its config. -/
lemma change?_comm (commute : g ∘ f = f ∘ g) :
    (e.change? name f).bind (change? name g) = (e.change? name g).bind (change? name f) := by
  rw [change?_change?, change?_change?, commute]

/-- Changes of different machines. -/
lemma change?_comm_of_ne (h : name ≠ other) :
    (e.change? name f).bind (change? other g) = (e.change? other g).bind (change? name f) := by
  by_cases type : e.recipe.type = .dockerImage
  · cases hc : e.machines.get? name with
    | none =>
      cases hd : e.machines.get? other with
      | none => simp [change?, type, hc, hd]
      | some d => simp [change?, type, hc, hd, insertMachine, Dict.get?_insert, h]
    | some c =>
      cases hd : e.machines.get? other with
      | none => simp [change?, type, hc, hd, insertMachine, Dict.get?_insert, h.symm]
      | some d =>
        simp [change?, type, hc, hd, insertMachine, Dict.get?_insert, h, h.symm,
          Dict.insert_comm _ h]
  · simp [change?, type]

end Environment

namespace Command
variable {dev : DevAgents} {name other out text : String} {e r : Environment}

namespace Task

/-- What an edit makes of the config of its machine. -/
def change (dev : DevAgents) : Task → MachineConfig → MachineConfig
  | .setMemory _ bytes => putLimit bytes
  | .setDev _ enabled => putFlag dev enabled
  | _ => id

/-- Of the two kinds of edits it is the one that sets a limit. -/
def setsLimit : Task → Bool
  | .setMemory .. => true
  | _ => false

lemma exists_putLimit (dev : DevAgents) {task : Task} (h : task.setsLimit = true) :
    ∃ bytes, task.change dev = putLimit bytes := by
  cases task with
  | setMemory machine bytes => exact ⟨bytes, rfl⟩
  | _ => cases h

lemma exists_putFlag (dev : DevAgents) {task : Task} (edits : task.machine? = some name)
    (h : task.setsLimit = false) :
    ∃ enabled, task.change dev = putFlag dev enabled := by
  cases task with
  | setDev machine enabled => exact ⟨enabled, rfl⟩
  | setMemory => cases h
  | machines | capabilities | rename | delete => cases edits

/-- Edits of different kinds can be swapped. -/
lemma change_comm {a b : Task} (edits : a.machine? = some name) (edits' : b.machine? = some name)
    (kinds : a.setsLimit ≠ b.setsLimit) :
    b.change dev ∘ a.change dev = a.change dev ∘ b.change dev := by
  rcases Bool.eq_false_or_eq_true a.setsLimit with ha | ha
  · have hb : b.setsLimit = false := by simpa [ha] using kinds.symm
    obtain ⟨bytes, limit⟩ := exists_putLimit dev ha
    obtain ⟨enabled, flag⟩ := exists_putFlag dev edits' hb
    rw [limit, flag]
    exact funext fun c => putFlag_putLimit bytes enabled
  · have hb : b.setsLimit = true := by simpa [ha] using kinds.symm
    obtain ⟨enabled, flag⟩ := exists_putFlag dev edits ha
    obtain ⟨bytes, limit⟩ := exists_putLimit dev hb
    rw [limit, flag]
    exact funext fun c => (putFlag_putLimit bytes enabled).symm

/-- An edit makes the text of the document with its change. -/
lemma apply_eq_ok_iff {task : Task} (edits : task.machine? = some name) :
    (task.apply dev e).1 = .ok out ↔
      (e.change? name (task.change dev)).map Environment.pretty = some out := by
  rw [apply, Environment.change?]
  cases type : e.recipe.type with
  | dockerImage =>
    rw [if_pos rfl, Option.map_eq_some_iff]
    simp only [Option.map_eq_some_iff]
    cases task with
    | setMemory machine bytes =>
      cases edits
      refine map_eq_ok.trans (exists_congr fun r => and_congr_left' ?_)
      refine (editMachine_eq_ok_iff ?_).trans ?_
      · exact fun _ => rfl
      · simp only [merge_limit, change]
    | setDev machine enabled =>
      cases edits
      refine map_eq_ok.trans (exists_congr fun r => and_congr_left' ?_)
      refine (editMachine_eq_ok_iff ?_).trans ?_
      · exact fun _ => rfl
      · simp only [Translator.setDev, dockerImage, merge_flag, change]
    | machines | capabilities | rename | delete => cases edits
  | dockerfile | compose | other => simp [select]

/-- What an edit prints is read as the document with its change. -/
lemma ofText_change {task : Task} (decoded : Environment.decoder.ofText text = .ok e)
    (edits : task.machine? = some name) (changed : e.change? name (task.change dev) = some r) :
    Environment.decoder.ofText (r.pretty ++ "\n") = .ok r := by
  rw [Environment.change?] at changed
  split at changed
  · obtain ⟨c, hc, rfl⟩ := Option.map_eq_some_iff.mp changed
    cases task with
    | setMemory machine bytes =>
      cases edits
      have written := (textOf_setMemoryLimit decoded hc bytes).document
      rw [merge_limit] at written
      exact written
    | setDev machine enabled =>
      cases edits
      have written := ofText_setDev decoded hc dev enabled
      rw [merge_flag] at written
      exact written
    | machines | capabilities | rename | delete => cases edits
  · cases changed

end Task

/-! Runs that are fed to each other. -/

namespace Invocation
variable {fs : FileSystem} {i j : Invocation} {s : Surroundings fs}

/-- Reads the standard input and prints. -/
structure Pipes (i : Invocation) : Prop where
  reads : isInput i.document = true
  prints : i.output = none

/-- What a run prints that is given a text, if it succeeds. -/
def through (i : Invocation) (s : Surroundings fs) (text : String) : Option String :=
  let o := i.run { s with input := text }
  if o.failure = none then some o.output else none

lemma Pipes.through_eq_some (pipes : i.Pipes) : i.through s text = some out ↔
    ∃ written, i.Answers { s with input := text } written ∧ written ++ "\n" = out := by
  rw [through]
  rcases i.run_cases { s with input := text } with
    ⟨written, events, answers, run⟩ | ⟨none, failure, events, run⟩
  · rw [run, pipes.prints, Surroundings.deliver_printed]
    constructor
    · rintro ⟨⟩
      exact ⟨written, answers, rfl⟩
    · rintro ⟨other, answers', rfl⟩
      rw [answers.unique answers']
      rfl
  · rw [run]
    constructor
    · rintro ⟨⟩
    · rintro ⟨written, answers, _⟩
      exact absurd answers (none written)

/-- An edit prints the document that it is given with its change, and a line break. -/
lemma Pipes.through_eq (pipes : i.Pipes) (edits : i.task.machine? = some name) :
    i.through s text = (Environment.decoder.ofText text).toOption.bind fun e =>
      (e.change? name (i.task.change (.ofVariables s.lookup))).map (·.pretty ++ "\n") := by
  have read : ({ s with input := text } : Surroundings fs).read i.document = .ok text :=
    Surroundings.read_input pipes.reads rfl
  apply Option.ext
  intro out
  rw [pipes.through_eq_some]
  constructor
  · rintro ⟨written, ⟨text', e, read', decoded, answer⟩, rfl⟩
    cases read.symm.trans read'
    obtain ⟨r, changed, rfl⟩ := Option.map_eq_some_iff.mp ((Task.apply_eq_ok_iff edits).mp answer)
    simp [decoded, changed, Except.toOption]
  · intro printed
    cases decoded : Environment.decoder.ofText text with
    | error fault => rw [decoded] at printed; cases printed
    | ok e =>
      rw [decoded] at printed
      obtain ⟨r, changed, rfl⟩ := Option.map_eq_some_iff.mp printed
      have answer := (Task.apply_eq_ok_iff edits).mpr (Option.map_eq_some_iff.mpr ⟨r, changed, rfl⟩)
      exact ⟨r.pretty, ⟨text, e, read, decoded, answer⟩, rfl⟩

/-- Two edits, the second of which is fed what the first prints, make their changes of one
document. -/
lemma through_bind (first : i.Pipes) (second : j.Pipes) (edits : i.task.machine? = some name)
    (edits' : j.task.machine? = some other) :
    (i.through s text).bind (j.through s) =
      (Environment.decoder.ofText text).toOption.bind fun e =>
        ((e.change? name (i.task.change (.ofVariables s.lookup))).bind
          (Environment.change? other (j.task.change (.ofVariables s.lookup)))).map
            (·.pretty ++ "\n") := by
  rw [first.through_eq edits]
  cases decoded : Environment.decoder.ofText text with
  | error fault => rfl
  | ok e =>
    cases changed : e.change? name (i.task.change (.ofVariables s.lookup)) with
    | none => simp [Except.toOption, changed]
    | some r =>
      have again := Task.ofText_change decoded edits changed
      simp [Except.toOption, changed, second.through_eq edits', again]

/-- An edit that hides what the first does. -/
lemma through_bind_of_hidden (first : i.Pipes) (second : j.Pipes)
    (edits : i.task.machine? = some name) (edits' : j.task.machine? = some name)
    (hidden : ∀ dev c, j.task.change dev (i.task.change dev c) = j.task.change dev c) :
    (i.through s text).bind (j.through s) = j.through s text := by
  rw [through_bind first second edits edits', second.through_eq edits']
  have same : j.task.change (.ofVariables s.lookup) ∘ i.task.change (.ofVariables s.lookup) =
      j.task.change (.ofVariables s.lookup) := funext (hidden _)
  simp only [Environment.change?_change?, same]

end Invocation

/-- Two edits of different machines or of different kinds can be fed to each other in either
order: both orders fail, or both print the same text. Of two limits of one machine the later
one counts, and setting the flag of a machine again changes nothing. -/
theorem edits_commute {fs : FileSystem} (s : Surroundings fs) {i j : Invocation}
    (first : i.Pipes) (second : j.Pipes) (text : String) :
    (∀ m n, i.task.machine? = some m → j.task.machine? = some n →
      (m ≠ n ∨ i.task.setsLimit ≠ j.task.setsLimit) →
      (i.through s text).bind (j.through s) = (j.through s text).bind (i.through s)) ∧
    (∀ m a b, i.task = .setMemory m a → j.task = .setMemory m b →
      (i.through s text).bind (j.through s) = j.through s text) ∧
    ∀ m, i.task = .setDev m true → j.task = .setDev m true →
      (i.through s text).bind (j.through s) = j.through s text := by
  refine ⟨?independent, ?limits, ?flags⟩
  case independent =>
    intro m n edits edits' independent
    rw [Invocation.through_bind first second edits edits',
      Invocation.through_bind second first edits' edits]
    congr 1
    funext e
    by_cases here : m = n
    · subst here
      have kinds := independent.resolve_left (not_not.mpr rfl)
      rw [Environment.change?_comm (Task.change_comm edits edits' kinds)]
    · rw [Environment.change?_comm_of_ne here]
  case limits =>
    intro m a b limit limit'
    refine Invocation.through_bind_of_hidden first second (by rw [limit]; rfl)
      (by rw [limit']; rfl) fun dev c => ?_
    rw [limit, limit']
    exact putLimit_putLimit a b
  case flags =>
    intro m flag flag'
    refine Invocation.through_bind_of_hidden first second (by rw [flag]; rfl)
      (by rw [flag']; rfl) fun dev c => ?_
    rw [flag, flag']
    exact putFlag_true_twice

/-- A limit and a flag of one machine, whose attributes and agents are null and absent, and a
limit that is set again. -/
theorem edits_commute_web :
    let text := "\x7b\"recipe\":\x7b\"type\":\"dockerimage\"\x7d,\"machines\":" ++
      "\x7b\"web\":\x7b\"attributes\":null\x7d,\"db\":\x7b\x7d\x7d\x7d"
    let s : Surroundings := ⟨⟨.empty⟩, "", fun _ => none⟩
    let limit : Invocation := ⟨false, false, .setMemory "web" 512, "-", none⟩
    let other : Invocation := ⟨true, false, .setMemory "web" 1024, "-", none⟩
    let flag : Invocation := ⟨false, true, .setDev "web" true, "-/.", none⟩
    (limit.through s text).bind (flag.through s) ≠ none ∧
      (limit.through s text).bind (flag.through s) =
        (flag.through s text).bind (limit.through s) ∧
      (other.through s text).bind (limit.through s) = limit.through s text ∧
      (flag.through s text).bind (flag.through s) = flag.through s text := by
  intro text s limit other flag
  have limitPipes : limit.Pipes := ⟨by decide +kernel, rfl⟩
  have otherPipes : other.Pipes := ⟨by decide +kernel, rfl⟩
  have flagPipes : flag.Pipes := ⟨by decide +kernel, rfl⟩
  obtain ⟨independent, _, _⟩ := edits_commute s limitPipes flagPipes text
  obtain ⟨_, limits, _⟩ := edits_commute s otherPipes limitPipes text
  obtain ⟨_, _, flags⟩ := edits_commute s flagPipes flagPipes text
  refine ⟨?_, ?_, limits "web" 1024 512 rfl rfl, flags "web" rfl rfl⟩
  · rw [Invocation.through_bind limitPipes flagPipes rfl rfl]
    decide +kernel
  · exact independent "web" "web" rfl rfl (Or.inr (by decide))

end Command
end Workspace
