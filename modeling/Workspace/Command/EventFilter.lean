import Workspace.Command.Event
import Workspace.Pattern
import Workspace.Text.Blank
import Workspace.Text.Digits
import Workspace.Text.Numeral
import Workspace.Text.Numeric
import Workspace.Text.Split

/-! Filters that choose which events are shown. A filter is a list of directives with commas
between. A directive gives a level, for all events or for those whose target begins with a
given text, and in brackets it may ask for a span or a field: `target[span]=level` or
`target[{field}]=level`. Of a field it may ask for a value too: `target[{field=value}]=level`.
Of the directives that cover an event the closest decides. -/
namespace Workspace.Command

structure Directive where
  /-- The target of the event begins with it. -/
  target : Option String
  /-- The event has a field of the name. -/
  field : Option String
  /-- Asks for a span or for the value of a field. No event is logged within a span, so
  such a directive covers none. -/
  narrow : Bool
  rank : Nat
deriving DecidableEq

abbrev EventFilter := List Directive

/-- A level by name, in any case, or by number. -/
def rank? (cs : List Char) : Option Nat :=
  let number? := match cs with
    | '+' :: ds => Text.natural? ds
    | ds => Text.natural? ds
  match number?, String.ofList (cs.map Char.toLower) with
  | some n, _ => if n ≤ Level.trace.rank then some n else none
  | none, "off" => some 0
  | none, "error" => some Level.error.rank
  | none, "warn" => some Level.warn.rank
  | none, "info" => some Level.info.rank
  | none, "debug" => some Level.debug.rank
  | none, "trace" => some Level.trace.rank
  | none, _ => none

namespace Directive

/-- Covers all events. -/
def general (rank : Nat) : Directive := ⟨none, none, false, rank⟩

/-! Reading a directive. Its parts are found in the text without the blanks around it but
are cut out of the text with them, at the same places. So blanks are part of a target or a
level, and with blanks in front no level can be read. -/

/-- The directive with the level that stands from a place on; none lets everything pass. -/
def withLevel? (raw : List Char) (start : Nat) (d : Directive) : Option Directive :=
  match raw.drop start with
  | [] => some { d with rank := Level.trace.rank }
  | level => (rank? level).map fun rank => { d with rank }

/-- What follows the brackets: nothing, or a level behind an equals sign. -/
def afterBrackets? (raw : List Char) (start : Nat) (d : Directive) :
    List Char → Option Directive
  | [] => some d
  | '=' :: _ => d.withLevel? raw (start + 1)
  | _ :: _ => none

/-- A value is asked for as a numeral or as a pattern. -/
def isValue (cs : List Char) : Bool := Text.isNumeral cs || Pattern.isPattern cs

/-- The directive with a field, asked for by name or with a value behind an equals sign.
What stands behind another equals sign does not count. -/
def withField? (d : Directive) (field : List Char) : Option Directive :=
  match Text.split '=' field with
  | name :: value :: _ =>
    if isValue value then some { d with field := some (String.ofList name), narrow := true }
    else none
  | _ => some { d with field := some (String.ofList field) }

/-- What follows an opening bracket: a span, a field in braces, or both. -/
def inBrackets? (raw : List Char) (target : Option String) (start : Nat)
    (inside : List Char) : Option Directive :=
  let span := inside.takeWhile fun c => c != ']' && c != '{'
  let stop := start + span.length
  match inside.drop span.length with
  | [] => none
  | ']' :: rest =>
    afterBrackets? raw (stop + 1) ⟨target, none, true, Level.trace.rank⟩ rest
  | _ :: rest =>
    let name := rest.takeWhile (· != '}')
    let fieldStop := stop + 1 + name.length
    let field := (raw.take fieldStop).drop (stop + 1)
    match name, rest.drop name.length with
    | _ :: _, '}' :: ']' :: rest => do
      let d ← withField? ⟨target, none, !span.isEmpty, Level.trace.rank⟩ field
      afterBrackets? raw (fieldStop + 2) d rest
    | _, _ => none

def mayStart (c : Char) : Bool := c == '-' || c == ':' || c == '_' || Text.isAlphanumeric c

/-- A text without an equals sign and brackets is a level, or else a target of which
everything passes. -/
def ofText? (s : String) : Option Directive :=
  let raw := s.toList
  let text := Text.trim raw
  let name := text.takeWhile fun c => c != '=' && c != '['
  let target := String.ofList (raw.take name.length)
  match text with
  | [] => none
  | '[' :: inside => inBrackets? raw none 1 inside
  | first :: _ =>
    if !mayStart first then none
    else match text.drop name.length with
      | '=' :: _ => withLevel? raw (name.length + 1) ⟨some target, none, false, 0⟩
      | _ :: inside => inBrackets? raw (some target) (name.length + 1) inside
      | [] => some <| match rank? raw with
        | some rank => general rank
        | none => ⟨some s, none, false, Level.trace.rank⟩

def covers (d : Directive) (e : Event) : Bool :=
  !d.narrow && (d.target.all fun t => t.toList.isPrefixOf e.target.toList) &&
    d.field.all fun name => e.fields.any fun f => f.1 == name

/-- How much of a target the directive fixes; any target is more than none. -/
def reach (d : Directive) : Nat := (d.target.map fun t => t.length + 1).getD 0

/-- A field is closer than none, and of two fields the one that is later in the order. -/
def fieldBefore : Option String → Option String → Bool
  | none, some _ => true
  | some a, some b => a < b
  | _, none => false

def lessClose (d best : Directive) : Bool :=
  d.reach < best.reach || (d.reach == best.reach && fieldBefore d.field best.field)

end Directive

namespace EventFilter

/-- Empty directives do not count; without any, errors are let through. -/
def ofText? (s : String) : Option EventFilter :=
  match ((Text.parts ',' s).filter (· != "")).mapM Directive.ofText? with
  | some [] => some [.general Level.error.rank]
  | other => other

/-- Of two directives as close as each other the later one. -/
def closer (best? : Option Directive) (d : Directive) : Option Directive :=
  match best? with
  | some best => if d.lessClose best then some best else some d
  | none => some d

/-- The closest directive that covers the event decides. -/
def shows (f : EventFilter) (e : Event) : Bool :=
  match (f.filter fun d => d.covers e).foldl closer none with
  | some d => e.level.rank ≤ d.rank
  | none => false

/-- The filter of the surroundings: the first variable that holds one, else by whether
the command is verbose. -/
def choose (lookup : String → Option String) (verbose : Bool) : EventFilter :=
  let ofVariable (name : String) := (lookup name).bind ofText?
  match ofVariable "ENVCTL_LOG", ofVariable "RUST_LOG" with
  | some f, _ => f
  | none, some f => f
  | none, none => [.general (if verbose then Level.debug.rank else Level.warn.rank)]

end EventFilter

example : Directive.ofText? "envctl=4" = some ⟨some "envctl", none, false, 4⟩ := by
  decide +kernel

example : Directive.ofText? "Debug" = some (.general 4) := by decide +kernel

example : Directive.ofText? " debug" = some ⟨some " debug", none, false, 5⟩ := by
  decide +kernel

end Workspace.Command
