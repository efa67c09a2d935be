import ApiTypings.TypeExpr.OfSchema

/-!
# Where types are lost

A node whose type stays open although it says something gets a note: it lies too
deep, its kind has no meaning, or none of its kinds has one. Notes name the value
by the nearest property, with `Item` for each array in between.
-/

namespace ApiTypings.TypeExpr

open Schema

inductive Note where
  | tooDeep (value : String) (depth : Nat)
  | unknownKind (value : String) (kind : Kind)
  | unknownKinds (value : String)
  deriving DecidableEq, Repr

/-- The notes on a node at some depth, looking down the given number of levels. -/
def notesWithin : Nat → Nat → String → Node → List Note
  | 0, depth, value, _ => [.tooDeep value depth]
  | levels + 1, depth, value, node =>
    match node with
    | .primitive kind => if (ofKind? kind).isNone then [.unknownKind value kind] else []
    | .union kinds => if (kinds.filterMap ofKind?).isEmpty then [.unknownKinds value] else []
    | .array item => notesWithin levels (depth + 1) (value ++ "Item") item
    | .object properties _ =>
      properties.flatMap fun p => notesWithin levels (depth + 1) p.name p.node
    | .unknown => []

def notes (value : String) (node : Node) : List Note := notesWithin (maxDepth + 1) 0 value node

end ApiTypings.TypeExpr
