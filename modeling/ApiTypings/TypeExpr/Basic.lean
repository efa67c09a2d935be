/-!
# Type expressions

The part of TypeScript's types that generated declarations use. A field keeps
the description of the property it came from; a blank description counts as
none.
-/

namespace ApiTypings

/-- The types that are keywords. -/
inductive Keyword where
  | string
  | number
  | boolean
  | null
  | undefined
  | any
  | object
  deriving DecidableEq, Repr

mutual
inductive TypeExpr where
  | keyword (word : Keyword)
  | array (item : TypeExpr)
  | union (members : List TypeExpr)
  | intersection (members : List TypeExpr)
  | record (fields : List Field)
  | literal (value : String)
  | ref (name : String)
  deriving Repr

structure Field where
  name : String
  type : TypeExpr
  optional : Bool
  description : Option String
  deriving Repr
end

instance : Inhabited TypeExpr := ⟨.keyword .any⟩

namespace TypeExpr

/-- The type of every value. -/
abbrev any : TypeExpr := .keyword .any

def isAny : TypeExpr → Bool
  | .keyword .any => true
  | _ => false

end TypeExpr

end ApiTypings
