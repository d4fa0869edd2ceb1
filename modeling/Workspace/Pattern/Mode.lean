import Workspace.Text.Blank

/-! Modes in which a pattern, a regular expression, is read. A group may change the mode for
its inside, and a directive for the rest of its group. -/
namespace Workspace.Pattern

/-- What was read off the front of a text, and the rest of it; nothing when the text is no
pattern. -/
abbrev Reader (α : Type) := List Char → Option (α × List Char)

structure Mode where
  /-- The pattern is about code points, or else about bytes. -/
  unicode : Bool
  caseless : Bool
  /-- Blanks and comments may stand between the parts. -/
  spaced : Bool
deriving DecidableEq

namespace Mode

def standard : Mode := ⟨true, false, false⟩

/-- Letters that may stand in a change of mode, each at most once; those behind a minus sign
are switched off. Some of them only say what matches, and change nothing here. -/
def isChange (letters : List Char) : Bool :=
  letters.all (fun c => ['i', 'm', 's', 'U', 'u', 'R', 'x', '-'].contains c) &&
    decide letters.Nodup && letters.getLast? != some '-'

def change (m : Mode) (letters : List Char) : Mode :=
  let off := letters.dropWhile (· != '-')
  let setting (letter : Char) (now : Bool) :=
    if letters.contains letter then !off.contains letter else now
  ⟨setting 'u' m.unicode, setting 'i' m.caseless, setting 'x' m.spaced⟩

end Mode

/-- Leaves out blanks and comments. A comment goes from its sign to the end of the line. -/
def skipSpace (inComment : Bool) : List Char → List Char
  | [] => []
  | c :: cs =>
    if inComment then skipSpace (c != '\n') cs
    else if Text.isBlank c then skipSpace false cs
    else if c = '#' then skipSpace true cs
    else c :: cs

def Mode.skip (m : Mode) (cs : List Char) : List Char :=
  if m.spaced then skipSpace false cs else cs

/-- The next character that counts. A comment hides its sign only, not what it says. -/
def Mode.peek? (m : Mode) (cs : List Char) : Option Char :=
  if m.spaced then
    match cs.dropWhile Text.isBlank with
    | '#' :: comment => (comment.dropWhile Text.isBlank).head?
    | cs => cs.head?
  else cs.head?

end Workspace.Pattern
