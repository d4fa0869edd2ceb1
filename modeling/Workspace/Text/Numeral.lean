/-! Numerals: numbers as they are written for a binary fraction. A sign may stand in front of
a decimal, which has a digit before or behind its point and may have an exponent, or in front
of a word for what is no finite number. -/
namespace Workspace.Text

def unsigned : List Char → List Char
  | '+' :: cs => cs
  | '-' :: cs => cs
  | cs => cs

def isExponent : List Char → Bool
  | [] => true
  | c :: cs => (c == 'e' || c == 'E') && !(unsigned cs).isEmpty && (unsigned cs).all Char.isDigit

def isDecimal (cs : List Char) : Bool :=
  let whole := cs.takeWhile Char.isDigit
  match cs.dropWhile Char.isDigit with
  | '.' :: rest =>
    !(whole ++ rest.takeWhile Char.isDigit).isEmpty && isExponent (rest.dropWhile Char.isDigit)
  | rest => !whole.isEmpty && isExponent rest

def isNumeral (cs : List Char) : Bool :=
  isDecimal (unsigned cs) ||
    ["inf", "infinity", "nan"].contains (String.ofList ((unsigned cs).map Char.toLower))

example : ["5", "+.5", "-5.", "1e+5", "+Inf", "NAN"].all (fun s => isNumeral s.toList) := by
  decide +kernel

example : ["", "+", ".", "++5", "1e", "e5", "0x10", "5 "].all (fun s => !isNumeral s.toList) := by
  decide +kernel

end Workspace.Text
