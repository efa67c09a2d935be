import ApiTypings.Schema.Kind

/-!
# Schema nodes

The shape of a value, free of the ways in which a schema document may spell it.
The names an object requires are kept sorted and without repetition, so that two
nodes are equal when they require the same names.
-/

namespace ApiTypings.Schema

mutual
inductive Node where
  /-- One kind of value; also an array or object about whose inside nothing is known. -/
  | primitive (kind : Kind)
  | array (item : Node)
  | object (properties : List Property) (required : List String)
  /-- Any one of several kinds. -/
  | union (kinds : List Kind)
  /-- No shape could be recognized. -/
  | unknown
  deriving Repr

structure Property where
  name : String
  node : Node
  description : Option String
  deriving Repr
end

instance : Inhabited Node := ⟨.unknown⟩

/-- Nodes below this depth are not looked at. The root has depth zero. -/
def maxDepth : Nat := 64

/-- Puts a name into a sorted list unless it is there. -/
def insertName (name : String) : List String → List String
  | [] => [name]
  | n :: rest =>
    if name = n then n :: rest
    else if name < n then name :: n :: rest
    else n :: insertName name rest

/-- The names of a list, sorted by code points, each once. -/
def sortNames (names : List String) : List String := names.foldr insertName []

def Node.properties? : Node → Option (List Property)
  | .object properties _ => some properties
  | _ => none

end ApiTypings.Schema
