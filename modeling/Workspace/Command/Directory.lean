import Workspace.Command.FileSystem
import Workspace.Dict
import Workspace.Text.Split

/-! The smallest system of files that commands are tried on: one directory with texts by name,
and no folders among them. A path is followed from part to part; empty parts and single dots
lead nowhere else. There is nothing outside of the directory. -/
namespace Workspace.Command

structure Directory where
  files : Dict String

/-- Where a path leads. -/
inductive Place where
  | file (name : String)
  /-- A name followed by a slash, as only a folder is written. -/
  | folderName (name : String)
  | folder
  | outside
  /-- Past a name that stands in the directory. -/
  | below (name : String)
deriving DecidableEq

def partsOf (path : String) : List String := Text.parts '/' path

/-- Follows the names of a path, of which the last may be followed by a slash. Above the
directory only further steps up are known to lead to a folder. -/
def follow (slash : Bool) : List String → Place
  | [] => .folder
  | part :: rest =>
    if part = "." then follow slash rest
    else if part = ".." then
      if rest.all fun p => p == "." || p == ".." then .folder else .outside
    else if !rest.isEmpty then .below part
    else if slash then .folderName part
    else .file part

def placeOf (path : String) : Place :=
  let parts := partsOf path
  let names := parts.filter (· != "")
  if path.toList.head? == some '/' then
    if names.all fun p => p == "." || p == ".." then .folder else .outside
  else follow (parts.getLast? == some "") names

/-- A name has at most 255 bytes. -/
def isLongName (name : String) : Bool := 255 < name.utf8ByteSize

/-- A path has at most 4095 bytes. -/
def isLongPath (path : String) : Bool := 4095 < path.utf8ByteSize

namespace Directory

/-- Why a name can not be passed. -/
def faultAt (d : Directory) (name : String) : FileFault :=
  if isLongName name then .nameTooLong
  else if d.files.contains name then .notDirectory
  else .notFound

def read (d : Directory) (path : String) : Except FileFault String :=
  if isLongPath path then .error .nameTooLong
  else match placeOf path with
    | .file name =>
      match d.files.get? name with
      | some content => .ok content
      | none => .error (d.faultAt name)
    | .folder => .error .isDirectory
    | .outside => .error .notFound
    | .folderName name | .below name => .error (d.faultAt name)

/-- Makes or replaces a file. -/
def write (d : Directory) (path content : String) : Except FileFault Directory :=
  if isLongPath path then .error .nameTooLong
  else match placeOf path with
    | .file name =>
      if isLongName name then .error .nameTooLong
      else .ok ⟨Dict.insert d.files name content⟩
    | .folder | .folderName _ => .error .isDirectory
    | .outside => .error .notFound
    | .below name => .error (d.faultAt name)

abbrev system : FileSystem where
  State := Directory
  read d path := (d.read path).map String.toUTF8
  write d path text :=
    match d.write path text with
    | .ok after => (.ok (), after)
    | .error fault => (.error fault, d)

/-- The files that are new or not what they were. -/
def changes (before after : Directory) : List (String × String) :=
  after.files.toList.filter fun f => before.files.get? f.1 != some f.2

end Directory

example : placeOf "./a//" = .folderName "a" := by decide +kernel

example : placeOf "a/./" = .below "a" := by decide +kernel

example : placeOf "./.." = .folder := by decide +kernel

end Workspace.Command
