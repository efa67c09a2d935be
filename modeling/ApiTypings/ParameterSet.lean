import ApiTypings.Declaration
import ApiTypings.Interface
import ApiTypings.Schema.Document
import ApiTypings.TypeExpr.OfSchema

/-!
# Parameter sets

The up to four record declarations of an interface: path parameters, query
parameters, request body and response. A body whose schema is blank, is not
JSON, or declares no properties has no declaration, and this concerns no other
part.
-/

namespace ApiTypings

structure ParameterSet where
  params : Option Declaration
  query : Option Declaration
  body : Option Declaration
  response : Option Declaration
  deriving Repr

def Parameter.toField (p : Parameter) : Field :=
  .described p.name (.ofNode (.primitive p.kind)) (!p.required) (some p.description)

/-- The record of a parameter list, unless the list is empty. -/
def parameterRecord (name : String) (parameters : List Parameter) : Option Declaration :=
  if parameters.isEmpty then none
  else some ⟨name, .interface (parameters.map Parameter.toField)⟩

/-- What a body schema text amounts to. -/
inductive BodySchema where
  /-- There is no text, or a blank one. -/
  | absent
  | notJson
  | node (root : Schema.Node)

/-- White space at the ends of a schema text does not count. -/
def BodySchema.of (text : Option String) : BodySchema :=
  match text.map Text.trim with
  | none => .absent
  | some "" => .absent
  | some text =>
    match Schema.Node.ofText? text with
    | none => .notJson
    | some root => .node root

/-- The fields of a record type, unless it has none. -/
def TypeExpr.fields? : TypeExpr → Option (List Field)
  | .record (f :: fields) => some (f :: fields)
  | _ => none

theorem TypeExpr.fields?_eq_some {t : TypeExpr} {fields : List Field} :
    t.fields? = some fields ↔ t = .record fields ∧ fields ≠ [] := by
  unfold fields?
  split
  · next f rest =>
    rw [Option.some.injEq, TypeExpr.record.injEq]
    refine ⟨?_, And.left⟩
    rintro rfl
    exact ⟨rfl, List.cons_ne_nil f rest⟩
  · next hnot =>
    refine iff_of_false (fun h => nomatch h) ?_
    rintro ⟨rfl, hne⟩
    obtain ⟨f, rest, rfl⟩ := List.exists_cons_of_ne_nil hne
    exact hnot f rest rfl

/-- The fields a body schema declares at its root. -/
def BodySchema.fields? : BodySchema → Option (List Field)
  | .node root => (TypeExpr.ofNode root).fields?
  | _ => none

/-- The record of a body schema, if the schema declares properties. -/
def bodyRecord (name : String) (text : Option String) : Option Declaration :=
  (BodySchema.of text).fields?.map fun fields => ⟨name, .interface fields⟩

namespace ParameterSet

/-- The parameter set of an interface; all symbols start with the given stem. -/
def ofDetail (d : Detail) (stem : String) : ParameterSet :=
  { params := parameterRecord (stem ++ "RequestParams") d.pathParameters
    query := parameterRecord (stem ++ "RequestQuery") d.queryParameters
    body := bodyRecord (stem ++ "RequestBody") d.requestBody
    response := bodyRecord (stem ++ "Response") d.responseBody }

/-- The parts of a request that are there, in the order params, query, body. -/
def requestGroups (s : ParameterSet) : List Declaration :=
  [s.params, s.query, s.body].filterMap id

end ParameterSet

end ApiTypings
