import Workspace.Pattern.Mode
import Workspace.Text.Numeric

/-! What opens a group of a pattern: nothing, a name, or a change of the mode. -/
namespace Workspace.Pattern

inductive Opening where
  /-- Changes the mode for the rest of the group it stands in; it opens no group. -/
  | directive (mode : Mode)
  | group (mode : Mode) (name : Option (List Char))

def isGroupName : List Char → Bool
  | [] => false
  | c :: cs =>
    (c == '_' || Text.isAlphabetic c) &&
      cs.all fun c => ['_', '.', '[', ']'].contains c || Text.isAlphanumeric c

def readGroupName (m : Mode) : Reader Opening := fun cs =>
  let name := cs.takeWhile (· != '>')
  match cs.drop name.length with
  | _ :: rest => if isGroupName name then some (.group m name, rest) else none
  | [] => none

def readModeChange (m : Mode) : Reader Opening := fun cs =>
  let letters := cs.takeWhile fun c => c != ':' && c != ')'
  if !Mode.isChange letters then none
  else match cs.drop letters.length with
    | ':' :: rest => some (.group (m.change letters) none, rest)
    | _ :: rest => if letters.isEmpty then none else some (.directive (m.change letters), rest)
    | [] => none

/-- Behind the parenthesis. To look ahead or back of a match is not known. -/
def readOpening (m : Mode) : Reader Opening := fun cs =>
  match m.skip cs with
  | '?' :: '<' :: rest => readGroupName m rest
  | '?' :: 'P' :: '<' :: rest => readGroupName m rest
  | '?' :: rest => readModeChange m rest
  | rest => some (.group m none, rest)

end Workspace.Pattern
