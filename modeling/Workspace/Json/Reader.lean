import Workspace.Json.Shape
import Workspace.Json.Skim

/-! Reading a text under a shape. The text is read from left to right and the first thing
that is wrong is reported, be it the grammar or the shape: a scalar is read before its
kind is looked at, a list or object of the wrong kind is reported where it opens, a
repeated field at its key, and a missing one at the end of its object. -/
namespace Workspace.Json

/-- How many lists and objects may be open at once. -/
def nestingLimit : Nat := 127

def readColon : Reader Unit := fun cs =>
  match skipSpace cs with
  | [] => .error (.cutOff .object)
  | ':' :: rest => .ok ((), rest)
  | _ :: _ => .error (.malformed .expectedColon)

/-- Goes on to the next item of a list, or behind its closing bracket; `first` says that
no item has been read yet. -/
def nextItem (first : Bool) : Reader Bool := fun cs =>
  match skipSpace cs with
  | [] => .error (.cutOff .list)
  | c :: rest =>
    if c = ']' then .ok (false, rest)
    else if first then .ok (true, c :: rest)
    else if c = ',' then
      match skipSpace rest with
      | [] => .error (.cutOff .value)
      | ']' :: _ => .error (.malformed .trailingComma)
      | rest => .ok (true, rest)
    else .error (.malformed .expectedItemEnd)

/-- The next key of an object, or none behind its closing bracket. -/
def nextKey (first : Bool) : Reader (Option String) := fun cs =>
  match skipSpace cs with
  | [] => .error (.cutOff .object)
  | c :: rest =>
    if c = '}' then .ok (none, rest)
    else if first then key (c :: rest)
    else if c = ',' then
      match skipSpace rest with
      | [] => .error (.cutOff .value)
      | '}' :: _ => .error (.malformed .trailingComma)
      | rest => key rest
    else .error (.malformed .expectedMemberEnd)
where
  key : Reader (Option String)
    | '"' :: rest => do
      let (s, rest) ← readString rest
      .ok (some s, rest)
    | _ => .error (.malformed .keyNotString)

/-- The items of a list behind its opening bracket. The length of the text bounds the
steps, here and below. -/
def readItems {α : Type} (item : Reader α) : Nat → Bool → Reader (List α)
  | 0, _, _ => .error (.cutOff .list)
  | steps + 1, first, cs => do
    let (more, rest) ← nextItem first cs
    if more then
      let (v, rest) ← item rest
      let (vs, rest) ← readItems item steps false rest
      .ok (v :: vs, rest)
    else .ok ([], rest)

/-- The members of an object behind its opening bracket. A member is added to those seen
before by `member`, which finds the text behind the key. -/
def readMembers {σ : Type} (member : String → σ → Reader σ) : Nat → Bool → σ → Reader σ
  | 0, _, _, _ => .error (.cutOff .object)
  | steps + 1, first, seen, cs => do
    let (key?, rest) ← nextKey first cs
    match key? with
    | none => .ok (seen, rest)
    | some key =>
      let (seen, rest) ← member key seen rest
      readMembers member steps false seen rest

/-- A member of a dictionary: of members with one key the last stands. -/
def dictMember (value : Reader Json) (key : String) (seen : Dict Json) :
    Reader (Dict Json) := fun cs => do
  let (_, cs) ← readColon cs
  let (v, rest) ← value cs
  .ok (seen.insert key v, rest)

/-- The value of a field. -/
def readField (value : Shape → Reader Json) (f : RecordField Shape) : Reader Json := fun cs =>
  match f.need, skipSpace cs with
  | .nullable, 'n' :: rest => do
    let (_, rest) ← readWord ['u', 'l', 'l'] rest
    .ok (.null, rest)
  | _, _ => value f.shape cs

/-- A member of a record: a field may stand once, other members are kept or skipped. -/
def recordMember (value : Shape → Reader Json) (form : Form) (fields : List (RecordField Shape))
    (key : String) (seen : Dict Json) : Reader (Dict Json) := fun cs =>
  match RecordField.find? fields key with
  | some f =>
    if seen.contains key then .error (.mismatched (.repeated key))
    else dictMember (readField value f) key seen cs
  | none =>
    if form = .extensible then dictMember (value .any) key seen cs
    else do
      let (_, cs) ← readColon cs
      let (_, rest) ← skim cs
      .ok (seen, rest)

/-- The end of a record written as a list, behind its last field. -/
def readListEnd : Reader Unit := fun cs =>
  match skipSpace cs with
  | [] => .error (.cutOff .list)
  | ']' :: rest => .ok ((), rest)
  | ',' :: rest =>
    match skipSpace rest with
    | ']' :: _ => .error (.malformed .trailingComma)
    | _ => .error (.malformed .trailingText)
  | _ :: _ => .error (.malformed .trailingText)

/-- The fields of a record written as a list, of which `count` have been read. -/
def readFields (value : Shape → Reader Json) (title : String) :
    List (RecordField Shape) → Nat → Dict Json → Reader (Dict Json)
  | [], _, seen, cs => do
    let (_, rest) ← readListEnd cs
    .ok (seen, rest)
  | f :: fields, count, seen, cs => do
    let (more, rest) ← nextItem (count == 0) cs
    if more then
      let (v, rest) ← readField value f rest
      readFields value title fields (count + 1) (seen.insert f.name v) rest
    else if (f :: fields).any fun f => f.need == .required then
      .error (.mismatched (.tooShort count title (count + (f :: fields).length)))
    else .ok (seen, rest)

/-- The fault of a list or object where the shape wants another kind, or of one that is
nested too deep. -/
def refuse {α : Type} (s : Shape) (found : Found) (fits : Bool) : Except Fault α :=
  if fits then .error (.malformed .tooDeep)
  else .error (.mismatched (.wrongType found s.wanted))

/-- A value that opens with a brace, behind it. -/
def readObject (value : Shape → Reader Json) : Shape → Reader Json
  | .any, cs => do
    let (m, rest) ← readMembers (dictMember (value .any)) cs.length true .empty cs
    .ok (.object m, rest)
  | .dict item, cs => do
    let (m, rest) ← readMembers (dictMember (value item)) cs.length true .empty cs
    .ok (.object m, rest)
  | .record _ form fields, cs => do
    let (m, rest) ← readMembers (recordMember value form fields) cs.length true .empty cs
    match RecordField.missing? fields m with
    | some name => .error (.mismatched (.missing name))
    | none => .ok (.object m, rest)
  | s, _ => refuse s .object false

/-- A value that opens with a bracket, behind it. -/
def readList (value : Shape → Reader Json) : Shape → Reader Json
  | .any, cs => do
    let (vs, rest) ← readItems (value .any) cs.length true cs
    .ok (.list vs, rest)
  | .list item, cs => do
    let (vs, rest) ← readItems (value item) cs.length true cs
    .ok (.list vs, rest)
  | .record title .positional fields, cs => do
    let (m, rest) ← readFields value title fields 0 .empty cs
    .ok (.object m, rest)
  | s, _ => refuse s .list false

/-- A value without parts. -/
def readScalar : Reader Json
  | [] => .error (.cutOff .value)
  | c :: cs =>
    if c = '"' then do
      let (s, rest) ← readString cs
      .ok (.string s, rest)
    else if c = 'n' then do
      let (_, rest) ← readWord ['u', 'l', 'l'] cs
      .ok (.null, rest)
    else if c = 't' then do
      let (_, rest) ← readWord ['r', 'u', 'e'] cs
      .ok (.bool true, rest)
    else if c = 'f' then do
      let (_, rest) ← readWord ['a', 'l', 's', 'e'] cs
      .ok (.bool false, rest)
    else if c = '-' ∨ c.isDigit then do
      let (n, rest) ← readNumber (c :: cs)
      .ok (.number n, rest)
    else .error (.malformed .expectedValue)

namespace Shape

def fitsObject : Shape → Bool
  | .any | .dict _ | .record .. => true
  | _ => false

def fitsList : Shape → Bool
  | .any | .list _ | .record _ .positional _ => true
  | _ => false

/-- Reads a value of the shape with room for so many levels of nesting. -/
def read : Nat → Shape → Reader Json
  | room, s, cs =>
    match skipSpace cs with
    | '{' :: cs =>
      match room with
      | 0 => refuse s .object s.fitsObject
      | room + 1 => readObject (read room) s cs
    | '[' :: cs =>
      match room with
      | 0 => refuse s .list s.fitsList
      | room + 1 => readList (read room) s cs
    | cs => do
      let (v, rest) ← readScalar cs
      match check v s with
      | .ok () => .ok (v, rest)
      | .error m => .error (.mismatched m)

/-- The value of a text that holds nothing else. -/
def parse (s : Shape) (text : List Char) : Except Fault Json := do
  let (v, rest) ← read nestingLimit s text
  if (skipSpace rest).isEmpty then .ok v else .error (.malformed .trailingText)

end Shape

/-! Of two faults the one further to the left is reported. -/

example : Shape.string.parse "[1,".toList =
    .error (.mismatched (.wrongType .list .string)) := by rfl

end Workspace.Json
