import Workspace.Pattern.Mode
import Workspace.Text.Digits

/-! The atoms of a pattern: characters, and what is written with a backslash. Letter case,
families of characters and borders of words are known for ASCII only. So they can be asked
for only where a pattern is about bytes, and there it may not match a part of a longer
character. -/
namespace Workspace.Pattern

inductive Atom where
  | char (c : Char)
  /-- A character that is written as the number of a byte. -/
  | byte (c : Char)
  /-- Digits, blanks or the characters of words, or all the others. -/
  | family (negated : Bool)
  /-- The beginning or the end of the text. -/
  | edge
  /-- A place at the border of a word, or one that is not. -/
  | wordEdge
deriving DecidableEq

def isAscii (c : Char) : Bool := c.toNat < 0x80

/-! Reading an escape, behind the backslash. -/

/-- The number that so many hexadecimal digits make, behind those already read. -/
def readHex (m : Mode) : Nat → Nat → Reader Nat
  | 0, n, cs => some (n, cs)
  | count + 1, n, cs =>
    match m.skip cs with
    | [] => none
    | c :: cs => (Text.hexValue? c).bind fun d => readHex m count (n * 16 + d) cs

/-- The character with the number. Half a surrogate pair is no character. -/
def readCodePoint (m : Mode) (count : Nat) : Reader Char := fun cs => do
  let (n, rest) ← readHex m count 0 cs
  if n < 0xd800 || (0xe000 ≤ n && n < 0x110000) then some (Char.ofNat n, rest) else none

/-- A sign of ASCII stands for itself. Numbers of groups and properties of characters are
not known. -/
def readEscape (m : Mode) : Reader Atom
  | [] => none
  | 'x' :: cs => (readCodePoint m 2 cs).map fun (c, rest) => (.byte c, rest)
  | 'u' :: cs => (readCodePoint m 4 cs).map fun (c, rest) => (.char c, rest)
  | 'U' :: cs => (readCodePoint m 8 cs).map fun (c, rest) => (.char c, rest)
  | 'a' :: cs => some (.char '\x07', cs)
  | 't' :: cs => some (.char '\t', cs)
  | 'n' :: cs => some (.char '\n', cs)
  | 'v' :: cs => some (.char '\x0b', cs)
  | 'f' :: cs => some (.char '\x0c', cs)
  | 'r' :: cs => some (.char '\r', cs)
  | 'A' :: cs => some (.edge, cs)
  | 'z' :: cs => some (.edge, cs)
  | c :: cs =>
    if ['d', 's', 'w'].contains c then some (.family false, cs)
    else if ['D', 'S', 'W'].contains c then some (.family true, cs)
    else if ['b', 'B', '<', '>'].contains c then some (.wordEdge, cs)
    else if isAscii c && !c.isAlphanum then some (.char c, cs)
    else none

/-- What a character stands for where only a backslash has a meaning of its own. -/
def readAtom (m : Mode) : Reader Atom
  | [] => none
  | '\\' :: cs => readEscape m cs
  | c :: cs => some (.char c, cs)

namespace Atom

def isAllowed (m : Mode) : Atom → Bool
  | char c => !m.caseless || (!m.unicode && isAscii c)
  | byte c => if m.unicode then !m.caseless else isAscii c
  | family negated => !m.unicode && !negated
  | edge => true
  | wordEdge => !m.unicode

/-- A set of bytes has no characters beyond ASCII, and no set has a place. -/
def isAllowedInSet (m : Mode) : Atom → Bool
  | char c | byte c => if m.unicode then !m.caseless else isAscii c
  | family negated => !m.unicode && !negated
  | edge | wordEdge => false

def char? : Atom → Option Char
  | char c | byte c => some c
  | _ => none

end Atom

end Workspace.Pattern
