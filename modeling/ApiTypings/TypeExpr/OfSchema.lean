import ApiTypings.Schema.Basic
import ApiTypings.Text.Basic
import ApiTypings.TypeExpr.Basic

/-!
# The type a schema node describes

Every node has a type: what is not recognized, and what lies too deep, becomes
the type of every value.
-/

namespace ApiTypings

open Schema

/-- A field; a blank description is dropped. -/
def Field.described (name : String) (type : TypeExpr) (optional : Bool)
    (description : Option String) : Field :=
  ⟨name, type, optional, description.bind Text.nonBlank?⟩

namespace TypeExpr

/-- The type of a kind, if the kind has a meaning. -/
def ofKind? : Kind → Option TypeExpr
  | .string => some (.keyword .string)
  | .number => some (.keyword .number)
  | .integer => some (.keyword .number)
  | .boolean => some (.keyword .boolean)
  | .array => some (.array any)
  | .object => some (.keyword .object)
  | .null => some (.keyword .null)
  | .undefined => some (.keyword .undefined)
  | .other _ => none

/-- The union of the given types; one type stands for itself, and none at all
leaves every value possible. -/
def ofAlternatives : List TypeExpr → TypeExpr
  | [] => any
  | [t] => t
  | ts => .union ts

/-- What holds of the types, of every value and of the union holds of the alternatives. -/
theorem ofAlternatives_cases {P : TypeExpr → Prop} {ts : List TypeExpr} (any : P any)
    (alone : ∀ t ∈ ts, P t) (union : 2 ≤ ts.length → P (.union ts)) : P (ofAlternatives ts) := by
  match ts, alone, union with
  | [], _, _ => exact any
  | [t], alone, _ => exact alone t List.mem_cons_self
  | _ :: _ :: _, _, union => exact union (by simp)

/-- The type of a node, looking down the given number of levels. -/
def ofNodeWithin : Nat → Node → TypeExpr
  | 0, _ => any
  | levels + 1, node =>
    match node with
    | .primitive kind => (ofKind? kind).getD any
    | .union kinds => ofAlternatives (kinds.filterMap ofKind?)
    | .array item => .array (ofNodeWithin levels item)
    | .object properties required =>
      .record (properties.map fun p =>
        .described p.name (ofNodeWithin levels p.node) (!required.contains p.name) p.description)
    | .unknown => any

def ofNode (node : Node) : TypeExpr := ofNodeWithin (maxDepth + 1) node

end TypeExpr

end ApiTypings
