import ApiTypings.Url.Percent

/-!
# Form encoding

The names and values of a query. Letters, digits, `*`, `-`, `.` and `_` are kept,
a space becomes a plus sign, and every other byte is percent encoded; so neither
`&` nor `=` occurs in an encoded name or value.
-/

namespace ApiTypings.Url.Form

def isKept (c : Char) : Bool :=
  c.isAlphanum || c == '*' || c == '-' || c == '.' || c == '_'

/-- One character of a name or value. -/
def encodeChar (c : Char) : List Char :=
  if c == ' ' then ['+'] else Percent.encodeChar isKept c

def encode (s : String) : String := .ofList (s.toList.flatMap encodeChar)

/-- A list of names with values as a query. -/
def query (pairs : List (String × String)) : String :=
  Text.join "&" (pairs.map fun (name, value) => encode name ++ "=" ++ encode value)

end ApiTypings.Url.Form
