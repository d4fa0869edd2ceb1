import Workspace.Recipe
import Workspace.Text.Quoted

/-! Events that are logged while a command runs. An event has a level, the part of the
program it comes from, and fields in the order in which they are shown. -/
namespace Workspace.Command

inductive Level where
  | error | warn | info | debug | trace
deriving DecidableEq

/-- How much a level lets through; `off`, at zero, is below all of them. -/
def Level.rank : Level → Nat
  | .error => 1
  | .warn => 2
  | .info => 3
  | .debug => 4
  | .trace => 5

def Level.name : Level → String
  | .error => "ERROR"
  | .warn => "WARN"
  | .info => "INFO"
  | .debug => "DEBUG"
  | .trace => "TRACE"

inductive Event where
  | selecting (type : RecipeType)
  | selected (type : RecipeType)
  | extracted (type : RecipeType) (machines : Nat)
  | rebuilt (type : RecipeType) (machines total : Nat)
  | limitSet (machine : String) (bytes : Int64)
  | devSet (machine : String) (dev : Bool)
  | wrote (path : String)
deriving DecidableEq

namespace Event

def level : Event → Level
  | .limitSet .. | .devSet .. | .wrote .. => .info
  | _ => .debug

/-- The part of the program that tells of the event, the whole before the part. -/
def target : Event → String
  | .selecting .. => "env_manager::registry"
  | .extracted .. => "env_manager::docker_image"
  | .rebuilt .. => "env_manager::manager"
  | .selected .. | .limitSet .. | .devSet .. | .wrote .. => "envctl"

def fields : Event → List (String × Json)
  | .selecting type =>
    [("event", .string "manager.select"), ("recipe_type", .string type.text)]
  | .selected type =>
    [("message", .string "selected environment manager"), ("recipe_type", .string type.text)]
  | .extracted type machines =>
    [("event", .string "environment.parsed"), ("recipe_type", .string type.text),
      ("machines", .ofNat machines)]
  | .rebuilt type machines total =>
    [("event", .string "environment.rebuilt"), ("recipe_type", .string type.text),
      ("machines", .ofNat machines), ("total", .ofNat total)]
  | .limitSet machine bytes =>
    [("message", .string "memory limit set"), ("machine", .string machine),
      ("memory_limit_bytes", .ofInt64 bytes)]
  | .devSet machine dev =>
    [("message", .string "dev flag set"), ("machine", .string machine), ("dev", .bool dev)]
  | .wrote path => [("message", .string ("Wrote " ++ Text.quoted path))]

end Event

end Workspace.Command
