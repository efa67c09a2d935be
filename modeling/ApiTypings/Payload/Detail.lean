import ApiTypings.Interface
import ApiTypings.Payload.Record

/-!
# Interface details in payloads

All fields of a detail and of its parameters may be missing or null. Whether a
parameter is required may be said by a truth value, a number or a text; a
parameter whose type is missing or blank is a string.
-/

namespace ApiTypings.Payload

/-- How `required` is read: true, a number other than zero, or the text `1` or
`true` up to white space and ASCII case. -/
def isRequired : Option Json → Bool
  | some (.bool b) => b
  | some (.int n) => n != 0
  | some (.double x) => x.exceedsEpsilon
  | some (.text s) => ["1", "true"].contains (Text.lowerAscii (Text.trim s))
  | _ => false

/-- The kind that a type names. -/
def kindOf : Option String → Schema.Kind
  | none => .string
  | some name => if Text.isBlankText name then .string else .ofName (Text.trim name)

def parameter? (j : Json) : Option Parameter :=
  match fields? ["name", "type", "required", "desc"] j with
  | some [name, type, required, description] => do
    let name ← text? name
    let type ← text? type
    let description ← text? description
    some ⟨name.getD "", kindOf type, isRequired required, description.getD ""⟩
  | _ => none

def parameters? (field : Option Json) : Option (List Parameter) :=
  (optional? (listOf? parameter?) field).map (·.getD [])

/-- Decodes a detail. Without an id of its own it has the requested one. -/
def detail? (requested : Nat) (j : Json) : Option Detail :=
  match fields? ["_id", "title", "path", "method", "req_params", "req_query", "req_body_other",
    "res_body"] j with
  | some [id, title, path, method, pathParameters, queryParameters, request, response] => do
    let id ← optional? id? id
    let title ← text? title
    let path ← text? path
    let method ← text? method
    let pathParameters ← parameters? pathParameters
    let queryParameters ← parameters? queryParameters
    let request ← text? request
    let response ← text? response
    some ⟨id.getD requested, title.getD "", path.getD "", method.getD "", pathParameters,
      queryParameters, request, response⟩
  | _ => none

def projectId? (j : Json) : Option Nat :=
  match fields? ["_id"] j with
  | some [some id] => id? id
  | _ => none

end ApiTypings.Payload
