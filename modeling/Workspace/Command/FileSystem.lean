/-! The files around a command, whatever keeps them. A file is read as bytes, which are a text
if they are UTF-8; a text is written. What reading and writing come to depends on a state that
only writing changes. -/
namespace Workspace.Command

/-- Why a file or the standard input can not be read, or a file can not be written. -/
inductive FileFault where
  /-- An error of the operating system, by its number and what it is called. -/
  | system (code : Nat) (name : String)
  | other (message : String)
deriving DecidableEq

namespace FileFault

def notFound : FileFault := .system 2 "No such file or directory"

def notDirectory : FileFault := .system 20 "Not a directory"

def isDirectory : FileFault := .system 21 "Is a directory"

def nameTooLong : FileFault := .system 36 "File name too long"

def noText : FileFault := .other "stream did not contain valid UTF-8"

def message : FileFault → String
  | .system code name => name ++ " (os error " ++ Nat.repr code ++ ")"
  | .other message => message

end FileFault

structure FileSystem where
  State : Type
  read : State → String → Except FileFault ByteArray
  /-- Makes or replaces the file of a path. -/
  write : State → String → String → Except FileFault Unit × State

/-- The text that the bytes are. -/
def textOf (bytes : ByteArray) : Except FileFault String :=
  match String.fromUTF8? bytes with
  | some text => .ok text
  | none => .error .noText

end Workspace.Command
