import Workspace.Command.Arguments
import Workspace.Command.Directory
import Workspace.Command.EventFilter
import Workspace.Command.Report

/-! Running a command. The document is read, the task done to it, and the text it gives is
printed or written to a file. A command is performed by a host, which reads, writes and prints
for it; to run it is to perform it on surroundings that are values. -/
namespace Workspace.Command
open Json (Layout)

/-- What is shown of a machine. -/
structure MachineRow where
  name : String
  dev : Bool
  memoryLimit : Int64
  agents : Agents
  servers : Servers
  source : Source
  machineVariables : Option (Dict String)

namespace MachineRow

def of (t : Translator) (m : Machine) : MachineRow where
  name := m.name
  dev := t.isDev m
  memoryLimit := m.memoryLimit
  agents := m.agents
  servers := m.servers
  source := t.source m
  machineVariables := t.machineVariables? m

def layout (r : MachineRow) : Layout :=
  let shown := match r.machineVariables with
    | some d => [("envVariables", .value (.object (d.mapValues .string)))]
    | none => []
  .record ([("name", .string r.name), ("dev", .value (.bool r.dev)),
    ("memoryLimitBytes", .value (.ofInt64 r.memoryLimit)),
    ("agents", .value r.agents.toJson), ("servers", .value r.servers.toJson),
    ("source", r.source.layout)] ++ shown)

end MachineRow

/-- The machines of a document as they are listed. -/
def rows (t : Translator) (e : Environment) : List MachineRow :=
  (t.machines e).map (MachineRow.of t)

def capabilitiesLayout (t : Translator) (m : Machine) : Layout :=
  let can := t.capabilities m
  .record [("name", .string m.name), ("canRenameMachine", .value (.bool can.rename)),
    ("canDeleteMachine", .value (.bool can.delete)),
    ("canAddMachine", .value (.bool can.add)),
    ("canEditEnvVariables", .value (.bool can.editVariables))]

def overviewLayout (t : Translator) (e : Environment) : Layout :=
  .record [("recipeType", t.type.layout), ("editorMode", .string t.editorMode),
    ("machines", .list ((t.machines e).map (capabilitiesLayout t)))]

/-- The list with the first machine of the name edited, if there is one. -/
def editFirst? (name : String) (edit : Machine → Machine) : List Machine → Option (List Machine)
  | [] => none
  | m :: rest =>
    if m.name = name then some (edit m :: rest)
    else (editFirst? name edit rest).map (m :: ·)

/-- The document with one machine edited: all machines are taken out of it and merged
back. -/
def editMachine (t : Translator) (name : String) (edit : Machine → Machine) (e : Environment) :
    Except Failure Environment :=
  match editFirst? name edit (t.machines e) with
  | some machines => .ok (e.rebuild machines)
  | none => .error (.noMachine name)

namespace Task

/-- The text that a task makes of a document. -/
def result (t : Translator) (e : Environment) : Task → Except Failure String
  | .machines => .ok (Layout.list ((rows t e).map MachineRow.layout)).pretty
  | .capabilities => .ok (overviewLayout t e).pretty
  | .setMemory name bytes =>
    (editMachine t name (Machine.setMemoryLimit bytes) e).map Environment.pretty
  | .setDev name enabled => (editMachine t name (t.setDev enabled) e).map Environment.pretty
  | .rename old new =>
    match t.renameMachine e old new with
    | .ok e => .ok e.pretty
    | .error error => .error (.notRenamed old new error)
  | .delete name =>
    match t.deleteMachine e name with
    | .ok e => .ok e.pretty
    | .error error => .error (.notDeleted name error)

/-- What is logged of an edit, if there is a machine of the name: the edit itself, and
that the document was rebuilt. -/
def editEvents (t : Translator) (e : Environment) (name : String) (edited : Event) :
    List Event :=
  let machines := t.machines e
  if machines.any fun m => m.name == name then
    [edited, .rebuilt t.type machines.length e.machines.size]
  else []

/-- What is logged while a task is done. -/
def events (t : Translator) (e : Environment) : Task → List Event
  | .machines | .capabilities => [.extracted t.type (t.machines e).length]
  | .setMemory name bytes =>
    .extracted t.type (t.machines e).length :: editEvents t e name (.limitSet name bytes)
  | .setDev name enabled =>
    .extracted t.type (t.machines e).length :: editEvents t e name (.devSet name enabled)
  | .rename .. | .delete .. => []

/-- The result for a document, by the translator of its type, with the events. -/
def apply (task : Task) (agents : DevAgents) (e : Environment) :
    Except Failure String × List Event :=
  match Translator.select e.recipe.type agents with
  | .error error => (.error (.untranslatable error), [.selecting e.recipe.type])
  | .ok t => (task.result t e, .selecting e.recipe.type :: .selected t.type :: task.events t e)

end Task

/-- A path of a dash alone stands for the standard input. -/
def isInput (path : String) : Bool :=
  match partsOf path with
  | first :: rest => first == "-" && rest.all fun p => p == "" || p == "."
  | [] => false

/-- The text of a document that was read from a path. -/
def documentText (path : String) (bytes : Except FileFault ByteArray) : Except Failure String :=
  match bytes.bind textOf with
  | .ok text => .ok text
  | .error fault =>
    .error (if isInput path then .unreadableInput fault else .unreadable path fault)

def decodeDocument (path text : String) : Except Failure Environment :=
  match Environment.decoder.ofText text with
  | .ok e => .ok e
  | .error fault => .error (.undecodable path fault)

/-- What a command asks of what it runs in. -/
structure Host (m : Type → Type) where
  readInput : m (Except FileFault ByteArray)
  readFile : String → m (Except FileFault ByteArray)
  writeFile : String → String → m (Except FileFault Unit)
  print : String → m Unit
  log : List Event → m Unit

section Performing
variable {m : Type → Type} [Monad m]

def Host.read (host : Host m) (path : String) : m (Except FileFault ByteArray) :=
  if isInput path then host.readInput else host.readFile path

/-- Prints a text or writes it to a file, with a line break at the end. -/
def Host.deliver (host : Host m) (output : Option String) (text : String) :
    m (Option Failure) := do
  match output with
  | none =>
    host.print (text ++ "\n")
    return none
  | some path =>
    match ← host.writeFile path (text ++ "\n") with
    | .ok () =>
      host.log [.wrote path]
      return none
    | .error fault => return some (.unwritable path fault)

/-- Goes on with what was read of the document. -/
def Invocation.proceed (i : Invocation) (lookup : String → Option String) (host : Host m)
    (bytes : Except FileFault ByteArray) : m (Option Failure) := do
  match (documentText i.document bytes).bind (decodeDocument i.document) with
  | .error failure => return some failure
  | .ok e =>
    let (result, events) := i.task.apply (.ofVariables lookup) e
    host.log events
    match result with
    | .error failure => return some failure
    | .ok text => host.deliver i.output text

/-- Performs a command with these variables set. Nothing is returned when it succeeds. -/
def Invocation.perform (i : Invocation) (lookup : String → Option String) (host : Host m) :
    m (Option Failure) := do
  i.proceed lookup host (← host.read i.document)

end Performing

/-- What the standard input holds, if it can be read. -/
structure Input where
  bytes : Except FileFault ByteArray

instance : Coe String Input := ⟨fun text => ⟨.ok text.toUTF8⟩⟩

/-- All that a command can see. -/
structure Surroundings (fs : FileSystem := Directory.system) where
  files : fs.State
  input : Input
  /-- The variables that are set. -/
  lookup : String → Option String

/-- All that a command has done. -/
structure Progress (fs : FileSystem := Directory.system) where
  output : String
  events : List Event
  files : fs.State

/-- All that a command leaves behind. -/
structure Outcome (fs : FileSystem := Directory.system) extends Progress fs where
  /-- Nothing when it succeeds. -/
  failure : Option Failure

section Running
variable {fs : FileSystem}

/-- What is done to the surroundings is kept with what was printed and logged. -/
def Surroundings.host (s : Surroundings fs) : Host (StateM (Progress fs)) where
  readInput := pure s.input.bytes
  readFile path := fun p => (fs.read p.files path, p)
  writeFile path text := fun p =>
    let (result, files) := fs.write p.files path text
    (result, { p with files })
  print text := fun p => ((), { p with output := p.output ++ text })
  log events := fun p => ((), { p with events := p.events ++ events })

/-- What can be read under a path. -/
def Surroundings.bytes (s : Surroundings fs) (path : String) : Except FileFault ByteArray :=
  if isInput path then s.input.bytes else fs.read s.files path

def Surroundings.read (s : Surroundings fs) (path : String) : Except Failure String :=
  documentText path (s.bytes path)

def Outcome.of (ended : Option Failure × Progress fs) : Outcome fs :=
  { ended.2 with failure := ended.1 }

def Invocation.run (i : Invocation) (s : Surroundings fs) : Outcome fs :=
  .of (i.perform s.lookup s.host ⟨"", [], s.files⟩)

end Running

/-- The events of a run that are logged as JSON. -/
def Invocation.shown (i : Invocation) (lookup : String → Option String)
    (events : List Event) : List Event :=
  if i.json then events.filter (EventFilter.choose lookup i.verbose).shows else []

end Workspace.Command
