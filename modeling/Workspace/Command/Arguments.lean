import Workspace.Text.Digits

/-! The command line. Arguments are read from left to right and the first that does not fit
is a misuse. Flags and options may stand before or behind the positional arguments of a
command, two flags also before the command itself; a bare double dash ends them. -/
namespace Workspace.Command

/-- What is to be done, with the document it is done to and where the result goes. -/
inductive Task where
  | machines
  | capabilities
  | setMemory (machine : String) (bytes : Int64)
  | setDev (machine : String) (enabled : Bool)
  | rename (old new : String)
  | delete (name : String)
deriving DecidableEq

structure Invocation where
  verbose : Bool
  /-- Events are logged as JSON. -/
  json : Bool
  task : Task
  document : String
  /-- Without a path the result is printed. -/
  output : Option String
deriving DecidableEq

inductive Request where
  | run (i : Invocation)
  | version
  | help
  | misuse
deriving DecidableEq

/-- Why the arguments are not read on. -/
inductive Stop where
  | misuse | version | help
deriving DecidableEq

inductive Key where
  | verbose | json | output | machine | bytes | enabled
deriving DecidableEq

namespace Key

def long : Key → String
  | .verbose => "verbose"
  | .json => "json"
  | .output => "output"
  | .machine => "machine"
  | .bytes => "bytes"
  | .enabled => "enabled"

def short? : Key → Option Char
  | .verbose => some 'v'
  | .json => none
  | .output => some 'o'
  | .machine => some 'm'
  | .bytes => some 'b'
  | .enabled => some 'e'

/-- A flag has no value. -/
def isFlag : Key → Bool
  | .verbose | .json => true
  | _ => false

end Key

def bool? (s : String) : Option Bool :=
  if s = "true" then some true else if s = "false" then some false else none

/-- Whether the value can stand for the option. -/
def Key.accepts : Key → String → Bool
  | .verbose, _ | .json, _ | .machine, _ => true
  | .output, v => v != ""
  | .bytes, v => (Text.int64? v.toList).isSome
  | .enabled, v => (bool? v).isSome

inductive Verb where
  | machines | capabilities | setMemory | setDev | rename | delete
deriving DecidableEq

namespace Verb

def ofText? : String → Option Verb
  | "machines" => some .machines
  | "capabilities" => some .capabilities
  | "set-memory" => some .setMemory
  | "set-dev" => some .setDev
  | "rename" => some .rename
  | "delete" => some .delete
  | _ => none

def options : Verb → List Key
  | .machines | .rename | .delete => [.verbose, .json, .output]
  | .capabilities => [.verbose, .json]
  | .setMemory => [.verbose, .json, .output, .machine, .bytes]
  | .setDev => [.verbose, .json, .output, .machine, .enabled]

/-- How many positional arguments there are, the document being the first. -/
def arity : Verb → Nat
  | .rename => 3
  | .delete => 2
  | _ => 1

end Verb

/-- What has been read of the arguments. -/
structure Given where
  options : List (Key × String)
  positionals : List String

namespace Given

def none : Given := ⟨[], []⟩

def has (g : Given) (key : Key) : Bool := g.options.any fun o => o.1 == key

def value? (g : Given) (key : Key) : Option String :=
  (g.options.find? fun o => o.1 == key).map Prod.snd

/-- An option may be given once, with a value that it accepts. -/
def put (g : Given) (key : Key) (value : String) : Except Stop Given :=
  if g.has key || !key.accepts value then .error .misuse
  else .ok { g with options := g.options ++ [(key, value)] }

/-- The document must be named, and there may be no more arguments than the verb has. -/
def push (g : Given) (arity : Nat) (arg : String) : Except Stop Given :=
  if arity ≤ g.positionals.length || (g.positionals.isEmpty && arg == "") then .error .misuse
  else .ok { g with positionals := g.positionals ++ [arg] }

end Given

/-- What can be given at a place of the command line. -/
structure Grammar where
  keys : List Key
  /-- The version is shown before the command only. -/
  version : Bool

/-- Options behind one dash: flags, of which the last may be an option with its value. The
second part of the result is an option whose value is still to come. -/
def readShort (grammar : Grammar) : List Char → Given → Except Stop (Given × Option Key)
  | [], g => .ok (g, none)
  | c :: cs, g =>
    match grammar.keys.find? fun k => k.short? == some c with
    | some key =>
      if key.isFlag then do
        let g ← g.put key ""
        readShort grammar cs g
      else match cs with
        | [] => .ok (g, some key)
        | '=' :: value | value => do
          let g ← g.put key (String.ofList value)
          .ok (g, none)
    | none =>
      if c = 'h' then .error .help
      else if c = 'V' && grammar.version then .error .version
      else .error .misuse

/-- An option behind two dashes, with its value behind an equals sign or still to come. -/
def readLong (grammar : Grammar) (text : List Char) (g : Given) :
    Except Stop (Given × Option Key) :=
  let name := String.ofList (text.takeWhile (· != '='))
  let value? := match text.dropWhile (· != '=') with
    | _ :: value => some (String.ofList value)
    | [] => none
  match grammar.keys.find? fun k => k.long == name, value? with
  | some key, none =>
    if key.isFlag then do
      let g ← g.put key ""
      .ok (g, none)
    else .ok (g, some key)
  | some key, some value =>
    if key.isFlag then .error .misuse
    else do
      let g ← g.put key value
      .ok (g, none)
  | none, none =>
    if name = "help" then .error .help
    else if name = "version" && grammar.version then .error .version
    else .error .misuse
  | none, some _ => .error .misuse

/-- Reads an argument that begins with a dash and is more than one; for others `none`. -/
def readOption? (grammar : Grammar) (arg : String) (g : Given) :
    Option (Except Stop (Given × Option Key)) :=
  match arg.toList with
  | '-' :: '-' :: text => some (readLong grammar text g)
  | '-' :: c :: cs => some (readShort grammar (c :: cs) g)
  | _ => none

/-- The arguments behind the verb. -/
def readArguments (verb : Verb) : List String → Given → Except Stop Given
  | [], g => .ok g
  | "--" :: rest, g => rest.foldlM (fun g arg => g.push verb.arity arg) g
  | arg :: rest, g =>
    match readOption? ⟨verb.options, false⟩ arg g with
    | none => do
      let g ← g.push verb.arity arg
      readArguments verb rest g
    | some (.error stop) => .error stop
    | some (.ok (g, none)) => readArguments verb rest g
    | some (.ok (g, some key)) =>
      match rest with
      | [] => .error .misuse
      | value :: rest =>
        if value != "-" && value.toList.head? == some '-' then .error .misuse
        else do
          let g ← g.put key value
          readArguments verb rest g

/-- What help can be asked about: all, or one verb, which may be `help` itself. -/
def isHelpTopic : List String → Bool
  | [] => true
  | [name] => name == "help" || (Verb.ofText? name).isSome
  | _ => false

/-- The flags before the verb, the verb, and what follows it. -/
def readVerb : List String → Given → Except Stop (Given × Verb × List String)
  | [], _ => .error .misuse
  | "--" :: _, _ => .error .misuse
  | arg :: rest, g =>
    match readOption? ⟨[.verbose, .json], true⟩ arg g with
    | some (.error stop) => .error stop
    | some (.ok (g, _)) => readVerb rest g
    | none =>
      match Verb.ofText? arg with
      | some verb => .ok (g, verb, rest)
      | none => .error (if arg = "help" && isHelpTopic rest then .help else .misuse)

def versionText : String := "envctl 0.3.1"

def usageText : String :=
  "Usage: envctl [--verbose] [--json] <COMMAND>\n\n" ++
  "  machines DOCUMENT [--output FILE]\n" ++
  "  capabilities DOCUMENT\n" ++
  "  set-memory DOCUMENT --machine NAME --bytes BYTES [--output FILE]\n" ++
  "  set-dev DOCUMENT --machine NAME [--enabled true|false] [--output FILE]\n" ++
  "  rename DOCUMENT OLD NEW [--output FILE]\n" ++
  "  delete DOCUMENT NAME [--output FILE]"

/-- The task of a verb with its arguments, if none is missing. -/
def taskOf? (verb : Verb) (g : Given) : Option Task :=
  match verb, g.positionals with
  | .machines, [_] => some .machines
  | .capabilities, [_] => some .capabilities
  | .setMemory, [_] => do
    let bytes ← (g.value? .bytes).bind fun v => Text.int64? v.toList
    some (.setMemory (← g.value? .machine) bytes)
  | .setDev, [_] => do
    let enabled := ((g.value? .enabled).bind bool?).getD true
    some (.setDev (← g.value? .machine) enabled)
  | .rename, [_, old, new] => some (.rename old new)
  | .delete, [_, name] => some (.delete name)
  | _, _ => none

/-- The request that the arguments make. Whether events are logged as JSON may also be said
by a variable; it is looked at in each of the two places where the flag is not given, and
must then hold a truth value. -/
def Request.ofArguments (lookup : String → Option String) (args : List String) : Request :=
  let result : Except Stop Request := do
    let (before, verb, rest) ← readVerb args .none
    let behind ← readArguments verb rest .none
    let setting? := lookup "ENVCTL_LOG_JSON"
    let settled := before.has .json && behind.has .json
    match taskOf? verb behind, behind.positionals.head? with
    | some task, some document =>
      if !settled && (setting?.any fun v => (bool? v).isNone) then .error .misuse
      else
        let verbose := before.has .verbose || behind.has .verbose
        let json := before.has .json || behind.has .json || setting? == some "true"
        .ok (.run ⟨verbose, json, task, document, behind.value? .output⟩)
    | _, _ => .error .misuse
  match result with
  | .ok request => request
  | .error .misuse => .misuse
  | .error .version => .version
  | .error .help => .help

end Workspace.Command
