import ApiTypings.Batch.Basic
import ApiTypings.Client
import ApiTypings.Log.Basic
import ApiTypings.Text.Quoted
import ApiTypings.TypeExpr.Notes

/-!
# What generation logs

The lines about requests, about the schemas of an interface, and about the course
of a batch. Texts are shown in quotes where they come from outside and could be
mistaken for something else; paths and errors are shown as they are.
-/

namespace ApiTypings

def ClientEvent.logLine (e : ClientEvent) : LogLine :=
  let target := "yapi2ts_core::yapi"
  match e with
  | .sending path => ⟨.debug, target, "Sending YAPI request.", [("endpoint", Text.quoted path)]⟩
  | .project id => ⟨.debug, target, "Resolved YAPI project.", [("project_id", toString id)]⟩
  | .listing id categories interfaces =>
    ⟨.info, target, "Fetched YAPI interface listing.",
      [("project_id", toString id), ("categories", toString categories),
        ("interfaces", toString interfaces)]⟩

/-- A kind without a meaning, with its name. -/
def Schema.Kind.summary : Schema.Kind → String
  | .other name => "Other(" ++ Text.quoted name ++ ")"
  | k => k.label

def TypeExpr.Note.logLine (n : TypeExpr.Note) : LogLine :=
  let target := "yapi2ts_core::resolver"
  match n with
  | .tooDeep value depth =>
    ⟨.trace, target, "Schema nesting too deep, using any.",
      [("hint", Text.quoted value), ("depth", toString depth)]⟩
  | .unknownKind value kind =>
    ⟨.trace, target, "Unmapped primitive kind, using any.",
      [("hint", Text.quoted value), ("kind", kind.summary)]⟩
  | .unknownKinds value =>
    ⟨.trace, target, "Union has no mapped variants, using any.", [("hint", Text.quoted value)]⟩

namespace ParameterSet

def parameterLines (parameters : List Parameter) : List LogLine :=
  parameters.flatMap fun p =>
    (TypeExpr.notes p.name (.primitive p.kind)).map TypeExpr.Note.logLine

/-- The lines about a body schema: what it lost, and why there is no declaration. -/
def bodyLines (id : Nat) (name label : String) (text : Option String) : List LogLine :=
  let target := "yapi2ts_core::params"
  match BodySchema.of text with
  | .absent => []
  | .notJson =>
    [⟨.warn, target, "Skipping unparseable " ++ label ++ " schema.",
      [("interface_id", toString id), ("error", "Invalid schema JSON: <detail>")]⟩]
  | .node root =>
    (TypeExpr.notes name root).map TypeExpr.Note.logLine ++
      (if (TypeExpr.ofNode root).fields?.isNone then
        [⟨.debug, target, "No " ++ label ++ " properties declared.",
          [("interface_id", toString id)]⟩]
      else [])

def lines (d : Detail) : List LogLine :=
  let stem := Identifier.symbolStem d.name
  parameterLines d.pathParameters ++ parameterLines d.queryParameters ++
    bodyLines d.id (stem ++ "RequestBody") "request body" d.requestBody ++
    bodyLines d.id (stem ++ "Response") "response body" d.responseBody

end ParameterSet

namespace BatchEvent

def target : String := "yapi2ts_core::batch"

def fetchLine (id : Nat) : Option FetchError → LogLine
  | none => ⟨.debug, target, "Fetched interface detail.", [("interface_id", toString id)]⟩
  | some e =>
    ⟨.warn, target, "Detail fetch failed, generating from summary.",
      [("interface_id", toString id), ("error", e.message)]⟩

def writeLine (id : Nat) (path text : String) : Option StoreError → LogLine
  | none =>
    ⟨.debug, "yapi2ts_core::store", "Wrote module.",
      [("path", path), ("len", toString text.utf8ByteSize)]⟩
  | some e =>
    ⟨.warn, target, "Failed to write module.",
      [("interface_id", toString id), ("error", e.message)]⟩

def lines : BatchEvent → List LogLine
  | .directory _ => []
  | .announced count destination =>
    [⟨.info, target, "Generating interface modules.",
      [("count", toString count), ("destination", destination)]⟩]
  | .fetchStarted _ => []
  | .fetchEnded id error => [fetchLine id error]
  | .cancellation => []
  | .generated d => ParameterSet.lines d
  | .overwriting id earlier file =>
    [⟨.warn, target, "Module file name already used in this run, overwriting.",
      [("interface_id", toString id), ("earlier", toString earlier), ("file", file)]⟩]
  | .qualified id file =>
    [⟨.debug, target, "Qualified colliding module file name.",
      [("interface_id", toString id), ("file", file)]⟩]
  | .rejected id earlier file =>
    [⟨.warn, target, "Rejected colliding module.",
      [("interface_id", toString id), ("earlier", toString earlier), ("file", file)]⟩]
  | .writeStarted _ => []
  | .writeEnded id path text error => [writeLine id path text error]
  | .stopped remaining =>
    [⟨.warn, target, "Generation cancelled.", [("remaining", toString remaining)]⟩]
  | .finished succeeded failed degraded =>
    [⟨.info, target, "Generation finished.",
      [("succeeded", toString succeeded), ("failed", toString failed),
        ("degraded", toString degraded)]⟩]

end BatchEvent

end ApiTypings
