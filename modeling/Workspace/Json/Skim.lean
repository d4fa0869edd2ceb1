import Workspace.Json.Lexeme

/-! Skimming: passing over a value nobody asked for. Lists and objects may be nested to any
depth, and behind a comma the next item or key is looked for at once. -/
namespace Workspace.Json

/-- Items up to the closing bracket; `first` says that none has been passed yet. -/
def skimItems (item : Reader Unit) : Nat → Bool → Reader Unit
  | 0, _, _ => .error (.cutOff .list)
  | steps + 1, first, cs =>
    match skipSpace cs with
    | [] => .error (.cutOff .list)
    | c :: rest =>
      if c = ']' then .ok ((), rest)
      else if first then do
        let (_, rest) ← item (c :: rest)
        skimItems item steps false rest
      else if c = ',' then do
        let (_, rest) ← item rest
        skimItems item steps false rest
      else .error (.malformed .expectedItemEnd)

/-- A key, a colon and a value. -/
def skimMember (value : Reader Unit) : Reader Unit := fun cs =>
  match skipSpace cs with
  | [] => .error (.cutOff .object)
  | '"' :: rest => do
    let (_, rest) ← skimString rest
    match skipSpace rest with
    | [] => .error (.cutOff .object)
    | ':' :: rest => value rest
    | _ :: _ => .error (.malformed .expectedColon)
  | _ :: _ => .error (.malformed .keyNotString)

def skimMembers (value : Reader Unit) : Nat → Bool → Reader Unit
  | 0, _, _ => .error (.cutOff .object)
  | steps + 1, first, cs =>
    match skipSpace cs with
    | [] => .error (.cutOff .object)
    | c :: rest =>
      if c = '}' then .ok ((), rest)
      else if first then do
        let (_, rest) ← skimMember value (c :: rest)
        skimMembers value steps false rest
      else if c = ',' then do
        let (_, rest) ← skimMember value rest
        skimMembers value steps false rest
      else .error (.malformed .expectedMemberEnd)

/-- One value, with a way to pass over those inside of it. -/
def skimWith (inside : Reader Unit) : Reader Unit := fun cs =>
  match skipSpace cs with
  | [] => .error (.cutOff .value)
  | c :: cs =>
    if c = '{' then skimMembers inside cs.length true cs
    else if c = '[' then skimItems inside cs.length true cs
    else if c = '"' then skimString cs
    else if c = 'n' then readWord ['u', 'l', 'l'] cs
    else if c = 't' then readWord ['r', 'u', 'e'] cs
    else if c = 'f' then readWord ['a', 'l', 's', 'e'] cs
    else if c = '-' ∨ c.isDigit then skimNumber (c :: cs)
    else .error (.malformed .expectedValue)

/-- Each level of nesting takes a bracket off the text, so its length bounds them. -/
def skimLevels : Nat → Reader Unit
  | 0 => fun _ => .error (.cutOff .value)
  | levels + 1 => skimWith (skimLevels levels)

def skim : Reader Unit := fun cs => skimLevels (cs.length + 1) cs

end Workspace.Json
