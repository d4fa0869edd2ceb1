import Workspace.Command.FileSystem
import Workspace.Translator

/-! How a command fails, and what it then reports: a message, and behind it the causes,
numbered when there are several. -/
namespace Workspace.Command

inductive Failure where
  | unreadable (path : String) (fault : FileFault)
  | unreadableInput (fault : FileFault)
  | undecodable (path : String) (fault : Json.Fault)
  | untranslatable (error : Error)
  | noMachine (name : String)
  | notRenamed (old new : String) (error : Error)
  | notDeleted (name : String) (error : Error)
  | unwritable (path : String) (fault : FileFault)
deriving DecidableEq

namespace Failure

def message : Failure → String
  | .unreadable path _ => "Failed to read environment file " ++ Text.quoted path
  | .unreadableInput _ => "Failed to read environment from stdin"
  | .undecodable path _ => "Failed to parse environment document " ++ Text.quoted path
  | .untranslatable error => error.message
  | .noMachine name => "machine not found: " ++ name
  | .notRenamed old new _ =>
    "Failed to rename machine '" ++ old ++ "' to '" ++ new ++ "'"
  | .notDeleted name _ => "Failed to delete machine '" ++ name ++ "'"
  | .unwritable path _ => "Failed to write " ++ Text.quoted path

/-- What led to the failure, the nearest cause first. -/
def causes : Failure → List String
  | .unreadable _ fault | .unreadableInput fault | .unwritable _ fault => [fault.message]
  | .undecodable _ fault => [(Error.json fault).message, fault.message]
  | .untranslatable _ | .noMachine _ => []
  | .notRenamed _ _ error | .notDeleted _ error => [error.message]

def report (f : Failure) : String :=
  let lines := match f.causes with
    | [] => []
    | [cause] => ["", "Caused by:", "    " ++ cause]
    | causes => "" :: "Caused by:" ::
        causes.zipIdx.map fun (cause, n) => "    " ++ Nat.repr n ++ ": " ++ cause
  "\n".intercalate (("Error: " ++ f.message) :: lines) ++ "\n"

end Failure

end Workspace.Command
