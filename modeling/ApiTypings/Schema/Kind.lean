import ApiTypings.Text.Basic

/-!
# Kinds

The names a schema may give for the kind of a value. Names are read up to white
space at the ends and ASCII case. A name without a meaning here is kept as
written, so that diagnostics can show it.
-/

namespace ApiTypings.Schema

inductive Kind where
  | string
  | number
  | integer
  | boolean
  | array
  | object
  | null
  | undefined
  | other (name : String)
  deriving DecidableEq, Repr

def Kind.ofName (name : String) : Kind :=
  match Text.lowerAscii (Text.trim name) with
  | "string" => .string
  | "number" => .number
  | "integer" => .integer
  | "boolean" => .boolean
  | "array" => .array
  | "object" => .object
  | "null" => .null
  | "undefined" => .undefined
  | _ => .other name

/-- How diagnostics name a known kind. -/
def Kind.label : Kind → String
  | .string => "String"
  | .number => "Number"
  | .integer => "Integer"
  | .boolean => "Boolean"
  | .array => "Array"
  | .object => "Object"
  | .null => "Null"
  | .undefined => "Undefined"
  | .other _ => "Other"

end ApiTypings.Schema
