import Workspace.Command.Run

/-! The program: the command that its arguments name is performed on the system it runs on. -/
namespace Workspace.Command

/-- The variables a command looks at. -/
def knownVariables : List String :=
  ["ENV_MANAGER_WS_AGENT", "ENV_MANAGER_SSH_AGENT", "ENV_MANAGER_TERMINAL_AGENT",
    "ENVCTL_LOG_JSON", "ENVCTL_LOG", "RUST_LOG"]

def readVariables : IO (String → Option String) := do
  let found ← knownVariables.filterMapM fun name => do
    return (← IO.getEnv name).map fun value => (name, value)
  return fun name => (found.find? fun v => v.1 == name).map Prod.snd

/-- What the system calls errors of files. -/
def systemErrors : List (Nat × String) :=
  [(2, "No such file or directory"), (13, "Permission denied"), (20, "Not a directory"),
    (21, "Is a directory"), (28, "No space left on device"), (30, "Read-only file system"),
    (36, "File name too long"), (40, "Too many levels of symbolic links")]

/-- The error of a number, which may come negated. One that is not listed keeps its name. -/
def systemFault (code : UInt32) (name : String) : FileFault :=
  let number := (if code < 0x80000000 then code else -code).toNat
  .system number (((systemErrors.find? fun e => e.1 == number).map Prod.snd).getD name)

/-- The fault that is behind an error. -/
def faultOf : IO.Error → FileFault
  | .alreadyExists _ code name | .interrupted _ code name | .noFileOrDirectory _ code name
  | .invalidArgument _ code name | .permissionDenied _ code name
  | .resourceExhausted _ code name | .inappropriateType _ code name | .noSuchThing _ code name
  | .otherError code name | .resourceBusy code name | .resourceVanished code name
  | .unsupportedOperation code name | .hardwareFault code name
  | .unsatisfiedConstraints code name | .illegalOperation code name
  | .protocolError code name | .timeExpired code name => systemFault code name
  | .unexpectedEof => .other "unexpected end of file"
  | .userError message => .other message

def attempt {α : Type} (action : IO α) : IO (Except FileFault α) := do
  try
    return .ok (← action)
  catch e =>
    return .error (faultOf e)

def logLine (e : Event) : String :=
  (Json.Layout.record [("level", .string e.level.name),
    ("fields", .record (e.fields.map fun f => (f.1, .value f.2)))]).compact

/-- The system that the program runs on. The events that are shown go to the standard error. -/
def systemHost (i : Invocation) (lookup : String → Option String) : Host IO where
  readInput := attempt do (← IO.getStdin).readBinToEnd
  readFile path := attempt (IO.FS.readBinFile path)
  writeFile path text := attempt (IO.FS.withFile path .write fun file => do
    file.putStr text
    file.flush)
  print := IO.print
  log events := (i.shown lookup events).forM fun e => IO.eprintln (logLine e)

end Workspace.Command

open Workspace.Command in
def main (args : List String) : IO UInt32 := do
  let lookup ← readVariables
  match Request.ofArguments lookup args with
  | .run i =>
    match ← i.perform lookup (systemHost i lookup) with
    | none => return 0
    | some failure =>
      IO.eprint failure.report
      return 1
  | .version =>
    IO.println versionText
    return 0
  | .help =>
    IO.println usageText
    return 0
  | .misuse =>
    IO.eprintln usageText
    return 2
