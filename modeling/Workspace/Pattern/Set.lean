import Workspace.Pattern.Atom

/-! Sets of characters in brackets. A set holds characters, ranges, named sets and further
sets, and may be combined from several with operators. The depth to which sets are nested is
counted as it is for the other parts of a pattern. -/
namespace Workspace.Pattern

def depthLimit : Nat := 250

/-- A single part is as deep as it is alone; several are one deeper than the deepest. -/
def depthOf : List Nat → Nat
  | [] => 0
  | [depth] => depth
  | depths => depths.foldl max 0 + 1

def setNames : List String :=
  ["alnum", "alpha", "ascii", "blank", "cntrl", "digit", "graph", "lower", "print", "punct",
   "space", "upper", "word", "xdigit"]

/-- A set by its name between colons, behind the bracket; whether it is negated. -/
def namedSet? : List Char → Option (Bool × List Char)
  | ':' :: cs =>
    let (negated, cs) := match cs with
      | '^' :: cs => (true, cs)
      | cs => (false, cs)
    let name := cs.takeWhile (· != ':')
    match cs.drop name.length with
    | ':' :: ']' :: rest =>
      if setNames.contains (String.ofList name) then some (negated, rest) else none
    | _ => none
  | _ => none

/-- A named set knows the letter case of ASCII only, and what is not in it may be longer
than a byte. -/
def allowsNamed (m : Mode) (negated : Bool) : Bool :=
  if m.unicode then !m.caseless else !negated

def isSetOperator (c : Char) : Bool := c == '&' || c == '-' || c == '~'

/-- What follows a member, from which a range may start. A dash before the closing bracket
or before another dash makes none. -/
def afterMember (m : Mode) (first : Atom) (cs : List Char) : Option (List Char) :=
  match m.skip cs with
  | [] => none
  | c :: rest =>
    if c = '-' && m.peek? rest != some ']' && m.peek? rest != some '-' then do
      let (last, rest) ← readAtom m (m.skip rest)
      if (← first.char?) ≤ (← last.char?) && first.isAllowedInSet m && last.isAllowedInSet m then
        some rest
      else none
    else if first.isAllowedInSet m then some (c :: rest) else none

/-- The part of a set that has been read. -/
structure Members where
  /-- Dashes that come first, and a bracket that comes first, are members. -/
  opening : Bool
  /-- The depth of the operands before the last operator. -/
  left : Option Nat
  /-- The depths of the members behind it. -/
  members : List Nat

namespace Members

def start : Members := ⟨true, none, []⟩

def add (p : Members) (depth : Nat) : Members :=
  { p with opening := false, members := depth :: p.members }

def depth (p : Members) : Nat :=
  match p.left with
  | none => depthOf p.members
  | some left => max left (depthOf p.members) + 1

/-- An operator takes all that stands before it as its left operand. -/
def operator (p : Members) : Members := ⟨false, some p.depth, []⟩

/-- Whether a character is a member for its place, whatever it means elsewhere. -/
def takes (p : Members) (c : Char) : Bool :=
  p.opening && (c == '-' || (c == ']' && p.members.isEmpty))

end Members

/-- Behind the opening bracket. A set of bytes cannot be negated. -/
def negation? (m : Mode) (cs : List Char) : Option (List Char) :=
  match m.skip cs with
  | '^' :: cs => if m.unicode then some cs else none
  | cs => some cs

/-- The depth of a set, behind what opens it. The fuel is more than the length of the
text. -/
def readMembers (m : Mode) : Nat → Members → Reader Nat
  | 0, _, _ => none
  | fuel + 1, p, cs =>
    match m.skip cs with
    | [] => none
    | c :: cs =>
      if p.takes c then
        if (Atom.char c).isAllowedInSet m then
          readMembers m fuel { p.add 0 with opening := c == '-' } cs
        else none
      else if c = ']' then some (p.depth + 1, cs)
      else if c = '[' then
        match namedSet? cs with
        | some (negated, rest) =>
          if allowsNamed m negated then readMembers m fuel (p.add 0) rest else none
        | none => do
          let (depth, rest) ← readMembers m fuel .start (← negation? m cs)
          readMembers m fuel (p.add depth) rest
      else if isSetOperator c && cs.head? = some c then readMembers m fuel p.operator (cs.drop 1)
      else do
        let (first, rest) ← readAtom m (c :: cs)
        readMembers m fuel (p.add 0) (← afterMember m first rest)

/-- The depth of a set, behind its opening bracket. -/
def readSet (m : Mode) : Reader Nat := fun cs => do
  let cs ← negation? m cs
  readMembers m (cs.length + 1) .start cs

end Workspace.Pattern
