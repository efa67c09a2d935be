import ApiTypings.ParameterSet

/-!
# Modules

One module is generated per interface. It starts with a comment of four lines.
Its declarations follow in a fixed order: path parameters, query parameters,
request body, the three declarations that combine them, and the response. The
combining ones are there when at least two parts of the request are.
-/

namespace ApiTypings

inductive Role where
  | paramsShape
  | queryShape
  | bodyShape
  | compositeRequest
  | fullRequest
  | paramSelector
  | response
  deriving DecidableEq, Repr

def Role.comment : Role → String
  | .paramsShape => "// Path parameters"
  | .queryShape => "// Query parameters"
  | .bodyShape => "// Request body"
  | .compositeRequest => "// Combined request"
  | .fullRequest => "// Every request part at once"
  | .paramSelector => "// Request part selector"
  | .response => "// Response body"

structure Module where
  /-- Names the file. -/
  name : String
  /-- The interface the module is generated from. -/
  id : Nat
  title : String
  path : String
  method : String
  declarations : List (Role × Declaration)
  deriving Repr

/-- A part of the request that is there. -/
structure RequestPart where
  discriminant : String
  role : Role
  declaration : Declaration

namespace Module

/-- The discriminants of the selector. -/
def discriminants : List String := ["params", "query", "body", "full"]

def requestParts (s : ParameterSet) : List RequestPart :=
  [("params", Role.paramsShape, s.params), ("query", Role.queryShape, s.query),
    ("body", Role.bodyShape, s.body)].filterMap fun (discriminant, role, declaration) =>
      declaration.map (⟨discriminant, role, ·⟩)

/-- The declarations that combine the parts of a request. -/
def combining (stem : String) (parts : List RequestPart) : List (Role × Declaration) :=
  let names := parts.map (·.declaration.name)
  let full := stem ++ "FullRequest"
  [(.compositeRequest, ⟨stem ++ "Request", .marker names⟩),
    (.fullRequest, ⟨full, .alias (.intersection (names.map .ref))⟩),
    (.paramSelector, ⟨stem ++ "Params", .selector "T" discriminants
      (parts.map fun p => (p.discriminant, .ref p.declaration.name)) (.ref full)⟩)]

/-- All declarations of a parameter set. -/
def declarationsOf (stem : String) (s : ParameterSet) : List (Role × Declaration) :=
  let parts := requestParts s
  parts.map (fun p => (p.role, p.declaration)) ++
    (if 2 ≤ parts.length then combining stem parts else []) ++
    (s.response.map (Role.response, ·)).toList

def ofDetail (d : Detail) : Module :=
  let stem := Identifier.symbolStem d.name
  ⟨d.name, d.id, d.title, d.path, d.method, declarationsOf stem (.ofDetail d stem)⟩

/-- The file a module is written to unless the name is taken. -/
def fileName (m : Module) : String := m.name ++ ".ts"

def declaration? (m : Module) (role : Role) : Option Declaration :=
  (m.declarations.find? (·.1 == role)).map (·.2)

/-- The four lines of comment at the top. -/
def header (m : Module) : String :=
  "// Generated by yapi2ts from a YAPI interface definition.\n" ++
    "// Title: " ++ Text.singleLine m.title ++ "\n" ++
    "// Path: " ++ Text.singleLine m.path ++ "\n" ++
    "// Method: " ++ Text.upper (Text.singleLine m.method) ++ "\n"

/-- A declaration below an empty line and its comment. -/
def block (d : Role × Declaration) : String := "\n" ++ d.1.comment ++ "\n" ++ d.2.emit

def emit (m : Module) : String := m.header ++ Text.join "" (m.declarations.map block)

end Module

end ApiTypings
