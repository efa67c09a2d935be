import ApiTypings.Identifier
import ApiTypings.TypeExpr.Basic

/-!
# The text of a type expression

An array suffix binds tighter than `&`, and `&` tighter than `|`; parentheses
stand where a member would otherwise be read differently.
-/

namespace ApiTypings

def Keyword.text : Keyword → String
  | .string => "string"
  | .number => "number"
  | .boolean => "boolean"
  | .null => "null"
  | .undefined => "undefined"
  | .any => "any"
  | .object => "object"

namespace TypeExpr

/-- In front of an array suffix these need parentheses. -/
def isCompound : TypeExpr → Bool
  | .union _ => true
  | .intersection _ => true
  | _ => false

/-- Inside an intersection these need parentheses. -/
def isUnion : TypeExpr → Bool
  | .union _ => true
  | _ => false

/-- A text in parentheses when needed. -/
def parenthesized (needed : Bool) (text : String) : String :=
  if needed then "(" ++ text ++ ")" else text

/-- A key, with a question mark when the field may be absent, and its type. -/
def fieldText (name : String) (optional : Bool) (type : String) : String :=
  Identifier.key name ++ (if optional then "?" else "") ++ ": " ++ type

mutual
def emit : TypeExpr → String
  | .keyword word => word.text
  | .array item => parenthesized item.isCompound (emit item) ++ "[]"
  | .union members => Text.join " | " (emitMembers members)
  | .intersection members => Text.join " & " (emitParts members)
  | .record [] => "\x7b\x7d"
  | .record (f :: fields) => "\x7b " ++ Text.join "; " (emitFields (f :: fields)) ++ " \x7d"
  | .literal value => Identifier.literal value
  | .ref name => name

def emitMembers : List TypeExpr → List String
  | [] => []
  | t :: rest => emit t :: emitMembers rest

def emitParts : List TypeExpr → List String
  | [] => []
  | t :: rest => parenthesized t.isUnion (emit t) :: emitParts rest

def emitFields : List Field → List String
  | [] => []
  | ⟨name, type, optional, _⟩ :: rest => fieldText name optional (emit type) :: emitFields rest
end

end TypeExpr

/-- The text of a field, without its description. -/
def Field.emit (f : Field) : String := TypeExpr.fieldText f.name f.optional f.type.emit

end ApiTypings
