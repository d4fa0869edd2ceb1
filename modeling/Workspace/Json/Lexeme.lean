import Workspace.Json.Fault
import Workspace.Text.Digits

/-! The smallest parts of a text: blanks, words, quoted strings and numbers. A reader takes
what it reads off the front of the text and gives the rest, or the first fault it meets.
Strings and numbers of values nobody asked for are skimmed: their grammar is checked, the
pairing of surrogates and the range are not. -/
namespace Workspace.Json

abbrev Reader (α : Type) := List Char → Except Fault (α × List Char)

def isSpace (c : Char) : Bool := c == ' ' || c == '\t' || c == '\n' || c == '\r'

def skipSpace (cs : List Char) : List Char := cs.dropWhile isSpace

/-- The letters of a word, of which the first has been seen. -/
def readWord : List Char → Reader Unit
  | [], cs => .ok ((), cs)
  | _ :: _, [] => .error (.cutOff .value)
  | w :: word, c :: cs =>
    if c = w then readWord word cs else .error (.malformed .expectedWord)

/-! Strings. -/

def utf8Length : List Char → Nat
  | [] => 0
  | c :: cs => c.utf8Size + utf8Length cs

/-- The 16-bit unit of four hexadecimal digits. A text of fewer than four bytes is cut
off; in a longer one something else is in their place. -/
def readUnit : Reader Nat
  | a :: b :: c :: d :: cs =>
    match Text.hexValue? a, Text.hexValue? b, Text.hexValue? c, Text.hexValue? d with
    | some a, some b, some c, some d => .ok (((a * 16 + b) * 16 + c) * 16 + d, cs)
    | _, _, _, _ => .error (.malformed .badEscape)
  | cs =>
    if utf8Length cs < 4 then .error (.cutOff .string) else .error (.malformed .badEscape)

def isLeading (unit : Nat) : Bool := 0xd800 ≤ unit && unit < 0xdc00

def isTrailing (unit : Nat) : Bool := 0xdc00 ≤ unit && unit < 0xe000

/-- The second half of a surrogate pair, with its own escape. -/
def readTrailing (leading : Nat) : Reader Char
  | [] | ['\\'] => .error (.cutOff .string)
  | '\\' :: 'u' :: cs => do
    let (trailing, rest) ← readUnit cs
    if isTrailing trailing then
      .ok (Char.ofNat ((leading - 0xd800) * 0x400 + (trailing - 0xdc00) + 0x10000), rest)
    else .error (.malformed .loneSurrogate)
  | _ => .error (.malformed .halfSurrogate)

/-- The character of a hexadecimal escape, or of a pair of them. -/
def readCodePoint : Reader Char := fun cs => do
  let (unit, rest) ← readUnit cs
  if isTrailing unit then .error (.malformed .loneSurrogate)
  else if isLeading unit then readTrailing unit rest
  else .ok (Char.ofNat unit, rest)

/-- A hexadecimal escape whose unit is of no interest. -/
def skimCodePoint : Reader Char := fun cs => do
  let (_, rest) ← readUnit cs
  .ok (' ', rest)

/-- The character an escape stands for, behind the backslash. -/
def readEscape (codePoint : Reader Char) : Reader Char
  | [] => .error (.cutOff .string)
  | '"' :: cs => .ok ('"', cs)
  | '\\' :: cs => .ok ('\\', cs)
  | '/' :: cs => .ok ('/', cs)
  | 'b' :: cs => .ok ('\x08', cs)
  | 'f' :: cs => .ok ('\x0c', cs)
  | 'n' :: cs => .ok ('\n', cs)
  | 'r' :: cs => .ok ('\r', cs)
  | 't' :: cs => .ok ('\t', cs)
  | 'u' :: cs => codePoint cs
  | _ :: _ => .error (.malformed .badEscape)

/-- The characters up to the closing quote. Each step takes one off the text at least, so
the length of the text bounds the steps. -/
def readChars (codePoint : Reader Char) : Nat → Reader (List Char)
  | 0, _ => .error (.cutOff .string)
  | _ + 1, [] => .error (.cutOff .string)
  | steps + 1, c :: cs =>
    if c = '"' then .ok ([], cs)
    else if c = '\\' then do
      let (x, cs) ← readEscape codePoint cs
      let (xs, cs) ← readChars codePoint steps cs
      .ok (x :: xs, cs)
    else if c.toNat < 32 then .error (.malformed .controlCharacter)
    else do
      let (xs, cs) ← readChars codePoint steps cs
      .ok (c :: xs, cs)

/-- A string behind its opening quote. -/
def readString : Reader String := fun cs => do
  let (xs, rest) ← readChars readCodePoint cs.length cs
  .ok (String.ofList xs, rest)

def skimString : Reader Unit := fun cs => do
  let (_, rest) ← readChars skimCodePoint cs.length cs
  .ok ((), rest)

/-! Numbers. -/

/-- A number as it is written. -/
structure Literal where
  minus : Bool
  whole : List Char
  fraction : Option (List Char)
  exponent : Option (Bool × List Char)
deriving DecidableEq

/-- One or more digits. -/
def readDigits : Reader (List Char)
  | [] => .error (.cutOff .value)
  | c :: cs =>
    if c.isDigit then .ok ((c :: cs).takeWhile Char.isDigit, (c :: cs).dropWhile Char.isDigit)
    else .error (.malformed .badNumber)

/-- Digits without a needless zero in front. -/
def readWhole : Reader (List Char)
  | '0' :: c :: cs =>
    if c.isDigit then .error (.malformed .badNumber) else .ok (['0'], c :: cs)
  | cs => readDigits cs

def readFraction : Reader (Option (List Char))
  | '.' :: cs => do
    let (ds, rest) ← readDigits cs
    .ok (some ds, rest)
  | cs => .ok (none, cs)

def readSign : List Char → Bool × List Char
  | '-' :: cs => (true, cs)
  | '+' :: cs => (false, cs)
  | cs => (false, cs)

def readExponent : Reader (Option (Bool × List Char))
  | c :: cs =>
    if c = 'e' ∨ c = 'E' then do
      let (minus, cs) := readSign cs
      let (ds, rest) ← readDigits cs
      .ok (some (minus, ds), rest)
    else .ok (none, c :: cs)
  | [] => .ok (none, [])

def readLiteral : Reader Literal := fun cs => do
  let (minus, cs) := match cs with
    | '-' :: rest => (true, rest)
    | _ => (false, cs)
  let (whole, cs) ← readWhole cs
  let (fraction, cs) ← readFraction cs
  let (exponent, cs) ← readExponent cs
  .ok (⟨minus, whole, fraction, exponent⟩, cs)

/-- The number of a literal, unless it is out of range: an integer if it has neither a
point nor an exponent. -/
def Number.ofLiteral? (l : Literal) : Option Number :=
  match l.fraction, l.exponent with
  | none, none => ofInteger? l.minus (Text.digitsValue l.whole)
  | fraction, exponent =>
    let fraction := fraction.getD []
    let power : Int := match exponent with
      | none => 0
      | some (minus, ds) => if minus then -Text.digitsValue ds else Text.digitsValue ds
    (Binary64.ofDecimal? l.minus (Text.digitsValue (l.whole ++ fraction))
      (power - fraction.length)).map .double

def readNumber : Reader Number := fun cs => do
  let (l, rest) ← readLiteral cs
  match Number.ofLiteral? l with
  | some n => .ok (n, rest)
  | none => .error (.malformed .numberRange)

/-- A number nobody asked for: whatever is wrong with it, it is a bad number. -/
def skimNumber : Reader Unit := fun cs =>
  match readLiteral cs with
  | .ok (_, rest) => .ok ((), rest)
  | .error _ => .error (.malformed .badNumber)

end Workspace.Json
