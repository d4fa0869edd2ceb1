import Workspace.Json.Basic
import Workspace.Text.Quoted

/-! What can be wrong with a text or a value that is read. A text may be cut off before
its end, or break the grammar; text and value alike may not have the shape asked for. -/
namespace Workspace.Json

/-- What was being read when the text ended. -/
inductive Region where
  | value | string | list | object
deriving DecidableEq

/-- A breach of the grammar. -/
inductive Flaw where
  | expectedValue
  | expectedWord
  | badNumber
  | numberRange
  | keyNotString
  | expectedColon
  | expectedMemberEnd
  | expectedItemEnd
  | trailingComma
  | trailingText
  | controlCharacter
  | badEscape
  | loneSurrogate
  | halfSurrogate
  | tooDeep
deriving DecidableEq

/-- The kind of a value that is not what was wanted, with its content if it is a scalar. -/
inductive Found where
  | null
  | bool (b : Bool)
  | number (n : Number)
  | string (s : String)
  | list
  | object
deriving DecidableEq

/-- The kind of value that was wanted. -/
inductive Wanted where
  | string
  | list
  | dict
  | record (title : String)
deriving DecidableEq

/-- A value of another shape than asked for. -/
inductive Mismatch where
  | wrongType (found : Found) (wanted : Wanted)
  | missing (field : String)
  | repeated (field : String)
  /-- A record written as a list that ends before its required fields do. -/
  | tooShort (found : Nat) (title : String) (fields : Nat)
  /-- A record written as a list with items beyond its fields. -/
  | tooLong (found : Nat)
  /-- None of the variants of a type fits. -/
  | noVariant (type : String)
deriving DecidableEq

inductive Fault where
  | cutOff (inside : Region)
  | malformed (flaw : Flaw)
  | mismatched (mismatch : Mismatch)
deriving DecidableEq

inductive Category where
  | cutOff | grammar | shape
deriving DecidableEq

def Fault.category : Fault → Category
  | .cutOff _ => .cutOff
  | .malformed _ => .grammar
  | .mismatched _ => .shape

def Region.name : Region → String
  | .value => "a value"
  | .string => "a string"
  | .list => "a list"
  | .object => "an object"

/-- A word of the program, set off from the message around it. -/
def ticked (s : String) : String := "\x60" ++ s ++ "\x60"

def Flaw.message : Flaw → String
  | .expectedValue => "expected value"
  | .expectedWord => "expected ident"
  | .badNumber => "invalid number"
  | .numberRange => "number out of range"
  | .keyNotString => "key must be a string"
  | .expectedColon => "expected " ++ ticked ":"
  | .expectedMemberEnd => "expected " ++ ticked "," ++ " or " ++ ticked "\x7d"
  | .expectedItemEnd => "expected " ++ ticked "," ++ " or " ++ ticked "]"
  | .trailingComma => "trailing comma"
  | .trailingText => "trailing characters"
  | .controlCharacter => "control character (\\u0000-\\u001F) found while parsing a string"
  | .badEscape => "invalid escape"
  | .loneSurrogate => "lone leading surrogate in hex escape"
  | .halfSurrogate => "unexpected end of hex escape"
  | .tooDeep => "recursion limit exceeded"

def Found.name : Found → String
  | .null => "null"
  | .bool b => "boolean " ++ ticked (if b then "true" else "false")
  | .number (.double x) => "floating point " ++ ticked (String.ofList x.text)
  | .number n => "integer " ++ ticked (String.ofList n.text)
  | .string s => "string " ++ Text.quoted s
  | .list => "sequence"
  | .object => "map"

def Wanted.name : Wanted → String
  | .string => "a string"
  | .list => "a sequence"
  | .dict => "a map"
  | .record title => "struct " ++ title

def Mismatch.message : Mismatch → String
  | .wrongType found wanted =>
    "invalid type: " ++ found.name ++ ", expected " ++ wanted.name
  | .missing field => "missing field " ++ ticked field
  | .repeated field => "duplicate field " ++ ticked field
  | .tooShort found title fields =>
    "invalid length " ++ Nat.repr found ++ ", expected struct " ++ title ++ " with " ++
      Nat.repr fields ++ " elements"
  | .tooLong found =>
    "invalid length " ++ Nat.repr found ++ ", expected fewer elements in array"
  | .noVariant type => "data did not match any variant of untagged enum " ++ type

def Fault.message : Fault → String
  | .cutOff inside => "EOF while parsing " ++ inside.name
  | .malformed flaw => flaw.message
  | .mismatched mismatch => mismatch.message

def Found.of : Json → Found
  | .null => .null
  | .bool b => .bool b
  | .number n => .number n
  | .string s => .string s
  | .list _ => .list
  | .object _ => .object

end Workspace.Json
