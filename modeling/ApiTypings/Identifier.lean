import ApiTypings.Text.Uppercase
import ApiTypings.Text.Basic

/-!
# Identifiers, keys and quoted literals

Declared symbols are built from interface names and have to be identifiers;
record keys are arbitrary text and are quoted when they are not. Only ASCII
letters, digits, underscore and dollar sign occur in an unquoted name.
-/

namespace ApiTypings.Identifier

/-- May stand first in an unquoted name. -/
def isStart (c : Char) : Bool := c.isAlpha || c == '_' || c == '$'

/-- May stand anywhere after the first character. -/
def isPart (c : Char) : Bool := c.isAlphanum || c == '_' || c == '$'

/-- The names that need no quotes. -/
def isIdentifier : List Char → Bool
  | [] => false
  | c :: cs => isStart c && cs.all isPart

/-- Whether a key has to be quoted. -/
def needsQuoting (name : String) : Bool := !isIdentifier name.toList

/-- Backslash and single quote get a backslash in front; all else stays. -/
def escapeChar (c : Char) : List Char :=
  if c == '\\' || c == '\'' then ['\\', c] else [c]

/-- The text as it stands between single quotes. -/
def escape (s : String) : String := .ofList (s.toList.flatMap escapeChar)

def literal (s : String) : String := "'" ++ escape s ++ "'"

/-- A record key, quoted only when it is not an identifier. -/
def key (name : String) : String := if needsQuoting name then literal name else name

/-- The stem of the symbols of an interface. Every character that cannot occur
in an identifier separates words, each word is capitalized, a leading digit gets
an underscore, and a name without any word gives `Index`. -/
def symbolStem (name : String) : String :=
  let s := ((Text.split (!isPart ·) name).map Text.capitalize).foldr (· ++ ·) ""
  match s.toList with
  | [] => "Index"
  | c :: _ => if c.isDigit then "_" ++ s else s

end ApiTypings.Identifier
