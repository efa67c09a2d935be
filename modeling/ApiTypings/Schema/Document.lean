import ApiTypings.Json.Reader
import ApiTypings.Json.Compact
import ApiTypings.Schema.Basic

/-!
# Schema documents

A schema document is a JSON value of loose shape: `type` may be missing, a name
or a list of names, and `properties` and `items` may be absent or malformed.
Every JSON value is read as some node; a text fails only when it is not JSON.
-/

namespace ApiTypings.Schema

/-- One element of a list of kinds. An element that is not a name is shown as JSON. -/
def kindOfElement : Json → Kind
  | .text name => .ofName name
  | v => .other v.compact

/-- The names a `required` entry lists; elements that are not names do not count. -/
def requiredNames : Option Json → List String
  | some (.array names) => sortNames (names.filterMap Json.asText?)
  | _ => []

/-- What the `type` entry of a schema says. -/
inductive TypeEntry where
  | kind (kind : Kind)
  | kinds (kinds : List Kind)
  | malformed

/-- Without a `type` entry a schema describes an object. -/
def TypeEntry.of : Option Json → TypeEntry
  | none => .kind .object
  | some (.text name) => .kind (.ofName name)
  | some (.array names) => .kinds (names.map kindOfElement)
  | some _ => .malformed

/-- Reads a value down to the given number of levels. -/
def Node.ofJsonWithin : Nat → Json → Node
  | 0, _ => .unknown
  | levels + 1, value =>
    match value with
    | .text name => .primitive (.ofName name)
    | .object members =>
      match TypeEntry.of (Assoc.find? "type" members) with
      | .malformed => .unknown
      | .kinds kinds => .union kinds
      | .kind .array =>
        match Assoc.find? "items" members with
        | none | some .null => .primitive .array
        | some item => .array (ofJsonWithin levels item)
      | .kind .object =>
        match Assoc.find? "properties" members with
        | some (.object properties) =>
          .object
            (properties.map fun (name, value) =>
              ⟨name, ofJsonWithin levels value, (value.get? "description").bind Json.asText?⟩)
            (requiredNames (Assoc.find? "required" members))
        | _ => .primitive .object
      | .kind kind => .primitive kind
    | _ => .unknown

def Node.ofJson (value : Json) : Node := ofJsonWithin (maxDepth + 1) value

def Node.ofText? (text : String) : Option Node := (Json.read text).map ofJson

end ApiTypings.Schema
