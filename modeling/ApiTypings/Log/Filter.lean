import ApiTypings.Log.Basic
import ApiTypings.Number.Decimal
import ApiTypings.Unicode.Alphanumeric

/-!
# Log filters

A filter is a list of directives with commas between them. A directive
`target=level` lets pass what is at least as severe as the level and comes from a
part of the program whose name starts with the target. Without a level everything
of the target passes; a level alone speaks for all targets. Behind the target,
`[{field}]` restricts a directive to lines with a field of that name.

For each line the directive with the longest target decides, of those one with a
field before one without, and of equal ones the last; a line for which no directive
speaks does not pass. Directives about spans or values of fields are read and select
nothing, since no line is written inside a span.
-/

namespace ApiTypings

structure Directive where
  /-- Without a target the directive speaks for every part. -/
  target : Option String
  /-- With a field the directive speaks for lines that have it only. -/
  field : Option String
  /-- The least severe level that passes; without one nothing does. -/
  level : Option Severity
  deriving DecidableEq, Repr

inductive DirectiveError where
  | malformed
  | unknownLevel
  deriving DecidableEq, Repr

def DirectiveError.message : DirectiveError → String
  | .malformed => "invalid filter directive"
  | .unknownLevel =>
    "error parsing level filter: expected one of \"off\", \"error\", \"warn\", \"info\", " ++
      "\"debug\", \"trace\", or a number 0-5"

namespace Directive

/-- The level with a name or number. The name `off` and zero let nothing pass. -/
def level? (name : String) : Option (Option Severity) :=
  match Text.lowerAscii name with
  | "off" => some none
  | "error" => some (some .error)
  | "warn" => some (some .warn)
  | "info" => some (some .info)
  | "debug" => some (some .debug)
  | "trace" => some (some .trace)
  | _ =>
    (Number.natural? 5 name).bind fun n =>
      [none, some Severity.error, some .warn, some .info, some .debug, some .trace][n]?

/-- May stand first in a target. -/
def isStart (c : Char) : Bool := c == '-' || c == ':' || c == '_' || Unicode.isAlphanumeric c

/-- The level behind an equals sign. None of a directive behind blanks can be read. -/
def statedLevel (indented : Bool) (cs : List Char) : Except DirectiveError (Option Severity) :=
  if indented then .error .unknownLevel
  else if cs.isEmpty then .ok (some .trace)
  else
    match level? (.ofList cs) with
    | some level => .ok level
    | none => .error .unknownLevel

/-- What stands in brackets and what follows them, given what follows the opening one. Only
the name of a field alone counts. -/
def bracketed? (cs : List Char) : Option (Option String × List Char) :=
  let span := cs.takeWhile fun c => c != ']' && c != '\x7b'
  match cs.drop span.length with
  | ']' :: rest => some (none, rest)
  | _ :: rest =>
    match Text.splitFirst (· == '\x7d') rest with
    | ([], _) => none
    | (field, some (']' :: rest)) =>
      some (if span.isEmpty && !field.contains '=' then some (.ofList field) else none, rest)
    | _ => none
  | [] => none

/-- The directive that a text denotes, or none if it selects nothing. -/
def ofText (s : String) : Except DirectiveError (Option Directive) :=
  let body := s.toList.dropWhile Text.isBlank
  let indented := body.length < s.length
  let head := body.takeWhile fun c => c != '=' && c != '['
  let target := if head.isEmpty then none else some (String.ofList head)
  if body.head?.all fun c => c != '[' && !isStart c then .error .malformed
  else
    match body.drop head.length with
    | [] =>
      match level? s with
      | some level => .ok (some ⟨none, none, level⟩)
      | none => .ok (some ⟨some s, none, some .trace⟩)
    | '=' :: level => (statedLevel indented level).map fun level => some ⟨target, none, level⟩
    | _ :: brackets =>
      match bracketed? brackets with
      | none => .error .malformed
      | some (field, '=' :: level) =>
        (statedLevel indented level).map fun level =>
          field.map fun field => ⟨target, some field, level⟩
      | some (field, rest) =>
        if !rest.all Text.isBlank then .error .malformed
        else if indented then .ok none
        else .ok (field.map fun field => ⟨target, some field, some .trace⟩)

/-- Whether a directive speaks for a line. -/
def speaksFor (d : Directive) (l : LogLine) : Bool :=
  (d.target.all fun target => target.toList.isPrefixOf l.target.toList) &&
    d.field.all l.names.contains

/-- Longer targets weigh more. -/
def weight (d : Directive) : Nat :=
  match d.target with
  | none => 0
  | some target => target.length + 1

/-- Whether a directive decides where one before it speaks as well. Of different fields the
one that is last in the alphabet decides. -/
def overrules (d before : Directive) : Bool :=
  if d.weight = before.weight then
    match before.field, d.field with
    | none, _ => true
    | some _, none => false
    | some f, some g => !(g < f)
  else before.weight < d.weight

end Directive

structure LogFilter where
  directives : List Directive
  deriving DecidableEq, Repr

namespace LogFilter

/-- The parts of the program that a level alone is about. -/
def parts : List String := ["yapi2ts", "yapi2ts_cli", "yapi2ts_core"]

/-- The same level for all parts. -/
def uniform (level : Severity) : LogFilter :=
  ⟨parts.map fun part => ⟨some part, none, some level⟩⟩

/-- The level that a setting names all by itself. -/
def plainLevel? (setting : String) : Option Severity :=
  [Severity.trace, .debug, .info, .warn, .error].find? fun level =>
    Text.lowerAscii level.label == Text.lowerAscii setting

/-- Reads directives. Those that cannot be read are ignored, with a notice. -/
def ofDirectives (texts : List String) : LogFilter × List String :=
  let results := texts.map fun s => (s, Directive.ofText s)
  (⟨results.filterMap fun (_, r) =>
      match r with
      | .ok d => d
      | .error _ => none⟩,
    results.filterMap fun (s, r) =>
      match r with
      | .ok _ => none
      | .error e => some ("ignoring \x60" ++ s ++ "\x60: " ++ e.message))

/-- The filter of a setting, with notices about what is ignored in it. -/
def ofSetting (setting : Option String) : LogFilter × List String :=
  match setting.map Text.trim with
  | none => (uniform .info, [])
  | some s =>
    if s.isEmpty then (uniform .info, [])
    else
      match plainLevel? s with
      | some level => (uniform level, [])
      | none => ofDirectives ((Text.split (· == ',') s).filter (!·.isEmpty))

/-- The directive that decides about a line. -/
def decisive? (f : LogFilter) (l : LogLine) : Option Directive :=
  (f.directives.filter (·.speaksFor l)).foldl (fun best d =>
    if best.all d.overrules then some d else best) none

def admits (f : LogFilter) (l : LogLine) : Bool :=
  match (f.decisive? l).bind (·.level) with
  | none => false
  | some level => l.severity.rank ≤ level.rank

end LogFilter

end ApiTypings
