import Workspace.Pattern.Group
import Workspace.Pattern.Set

/-! Patterns: regular expressions that can be matched against the value of a field. No event
has such a value, so all that counts is whether a text is a pattern. -/
namespace Workspace.Pattern

/-- An item of a branch. -/
inductive Item where
  | directive
  | part (depth : Nat)

def Item.depth : Item → Nat
  | directive => 0
  | part depth => depth

/-- The part of a group that has been read. -/
structure Body where
  mode : Mode
  /-- The names of groups so far, in the whole pattern. -/
  names : List (List Char)
  /-- The depths of the branches that are complete. -/
  branches : List Nat
  /-- The items of the branch that is being read, the last one first. -/
  items : List Item

namespace Body

def start (mode : Mode) (names : List (List Char)) : Body := ⟨mode, names, [], []⟩

def add (b : Body) (depth : Nat) : Body := { b with items := .part depth :: b.items }

/-- The mode stays as it is in the next branch. -/
def nextBranch (b : Body) : Body :=
  { b with branches := depthOf (b.items.map Item.depth) :: b.branches, items := [] }

def depth (b : Body) : Nat := depthOf b.nextBranch.branches

/-- Repeats the last item, of which there must be one that is more than a directive. -/
def repeatLast? (b : Body) : Option Body :=
  match b.items with
  | .part depth :: items => some { b with items := .part (depth + 1) :: items }
  | _ => none

/-- No two groups have the same name. -/
def enter? (b : Body) (mode : Mode) : Option (List Char) → Option Body
  | none => some (start mode b.names)
  | some name => if b.names.contains name then none else some (start mode (name :: b.names))

def leave (b inner : Body) : Body := { b.add (inner.depth + 1) with names := inner.names }

end Body

/-- A question mark that belongs to the repetition before it. -/
def skipLazy : List Char → List Char
  | '?' :: cs => cs
  | cs => cs

/-- A character outside of sets and groups. Counts of repetitions, in braces, are not
known. -/
def readSingle (m : Mode) : Reader Unit := fun cs =>
  match cs with
  | '{' :: _ => none
  | '.' :: rest => if m.unicode then some ((), rest) else none
  | '^' :: rest | '$' :: rest => some ((), rest)
  | cs => do
    let (atom, rest) ← readAtom m cs
    if atom.isAllowed m then some ((), rest) else none

/-- The body of a group up to what closes it. The fuel is more than the length of the
text. -/
def readBody : Nat → Body → Reader Body
  | 0, _, _ => none
  | fuel + 1, b, cs =>
    match b.mode.skip cs with
    | [] => some (b, [])
    | ')' :: rest => some (b, ')' :: rest)
    | '|' :: rest => readBody fuel b.nextBranch rest
    | '(' :: rest => do
      match ← readOpening b.mode rest with
      | (.directive mode, rest) =>
        readBody fuel { b with mode, items := .directive :: b.items } rest
      | (.group mode name, rest) =>
        match ← readBody fuel (← b.enter? mode name) rest with
        | (inner, ')' :: rest) => readBody fuel (b.leave inner) rest
        | _ => none
    | '[' :: rest => do
      let (depth, rest) ← readSet b.mode rest
      readBody fuel (b.add depth) rest
    | c :: rest =>
      if ['?', '*', '+'].contains c then do readBody fuel (← b.repeatLast?) (skipLazy rest)
      else do
        let ((), rest) ← readSingle b.mode (c :: rest)
        readBody fuel (b.add 0) rest

/-- A parenthesis that nothing opened ends the body too early. -/
def isPattern (cs : List Char) : Bool :=
  match readBody (cs.length + 1) (.start .standard []) cs with
  | some (b, []) => b.depth ≤ depthLimit
  | _ => false

example : ["", "x+", "a|", "(?:a|b)*?", "[a-z&&[^q]]", "[]a]", "(?-u)\\d", "(?x)a #(\n*",
    "(?<n>a)"].all (fun s => isPattern s.toList) := by decide +kernel

example : ["*", "a|+", "(", ")", "[z-a]", "[a", "\\d", "\\1", "(?i)a", "(?-u).", "(?ii:)",
    "(?<n>a)(?<n>b)"].all (fun s => !isPattern s.toList) := by decide +kernel

end Workspace.Pattern
