import Workspace.Json.Basic

/-! The text of a value. One writer serves both styles; a style says what stands at a line
break and behind the colon of a member. Empty lists and objects are closed at once. -/
namespace Workspace.Json

structure Style where
  /-- What a line break is written as, at a given depth. -/
  lineBreak : Nat → List Char
  colon : List Char

def Style.compact : Style := ⟨fun _ => [], [':']⟩

/-- Two spaces of indentation for each level. -/
def Style.indented : Style :=
  ⟨fun depth => '\n' :: List.replicate (2 * depth) ' ', [':', ' ']⟩

/-- The digit of a number below sixteen, in lower case. -/
def hexDigit (n : Nat) : Char := Nat.digitChar n

/-- A character inside quotes. -/
def escape (c : Char) : List Char :=
  if c = '"' then ['\\', '"']
  else if c = '\\' then ['\\', '\\']
  else if c = '\n' then ['\\', 'n']
  else if c = '\r' then ['\\', 'r']
  else if c = '\t' then ['\\', 't']
  else if c.toNat = 8 then ['\\', 'b']
  else if c.toNat = 12 then ['\\', 'f']
  else if c.toNat < 32 then
    ['\\', 'u', '0', '0', hexDigit (c.toNat / 16), hexDigit (c.toNat % 16)]
  else [c]

def quote (s : String) : List Char := '"' :: (s.toList.flatMap escape ++ ['"'])

namespace Style

/-- The parts, each on a line of its own one level deeper, with commas between. -/
def lines (style : Style) (depth : Nat) : List (List Char) → List Char
  | [] => []
  | [part] => style.lineBreak (depth + 1) ++ part
  | part :: rest => style.lineBreak (depth + 1) ++ part ++ ',' :: style.lines depth rest

/-- Parts between brackets; `depth` is that of the closing one. -/
def enclose (style : Style) (depth : Nat) (opening closing : Char)
    (parts : List (List Char)) : List Char :=
  if parts.isEmpty then [opening, closing]
  else opening :: (style.lines depth parts ++ style.lineBreak depth ++ [closing])

def member (style : Style) (key : String) (value : List Char) : List Char :=
  quote key ++ style.colon ++ value

end Style

mutual

/-- The text of a value that stands at the given depth. -/
def write (style : Style) (depth : Nat) : Json → List Char
  | .null => ['n', 'u', 'l', 'l']
  | .bool true => ['t', 'r', 'u', 'e']
  | .bool false => ['f', 'a', 'l', 's', 'e']
  | .number n => n.text
  | .string s => quote s
  | .list items => style.enclose depth '[' ']' (writeItems style (depth + 1) items)
  | .object members =>
    style.enclose depth '{' '}' (writeMembers style (depth + 1) members)

def writeItems (style : Style) (depth : Nat) : List Json → List (List Char)
  | [] => []
  | item :: rest => write style depth item :: writeItems style depth rest

def writeMembers (style : Style) (depth : Nat) {lo : Option String} :
    Chain Json lo → List (List Char)
  | .nil => []
  | .cons key _ value rest =>
    style.member key (write style depth value) :: writeMembers style depth rest

end

/-! Members stand in the order of their keys, and what is empty is closed at once. -/

example : write .compact 0 (.ofMembers [("b", .list []), ("a", .string "\t")]) =
    "\x7b\"a\":\"\\t\",\"b\":[]\x7d".toList := by decide +kernel

example : write .indented 0 (.list [.null]) = "[\n  null\n]".toList := by decide

end Workspace.Json
