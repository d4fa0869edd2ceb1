import Workspace.Text.Extending
import Workspace.Text.Unprintable

/-! Text quoted for a message. Everything stands as it is but quotes, backslashes and what
would not be seen: that is written as an escape, by its code point in braces where it has
no short form. -/
namespace Workspace.Text

def visible (c : Char) : List Char :=
  if c = '"' then ['\\', '"']
  else if c = '\\' then ['\\', '\\']
  else if c = '\n' then ['\\', 'n']
  else if c = '\r' then ['\\', 'r']
  else if c = '\t' then ['\\', 't']
  else if c.toNat = 0 then ['\\', '0']
  else if isExtending c || !isPrintable c then
    '\\' :: 'u' :: '{' :: (Nat.toDigits 16 c.toNat ++ ['}'])
  else [c]

def quoted (s : String) : String :=
  String.ofList ('"' :: (s.toList.flatMap visible ++ ['"']))

example : quoted "a\"\t\x7f'é" = "\"a\\\"\\t\\u\x7b7f\x7d'é\"" := by decide +kernel

end Workspace.Text
