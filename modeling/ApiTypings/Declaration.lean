import ApiTypings.TypeExpr.Emit

/-!
# Declarations

The exported declarations of a module and their text. Descriptions of fields
appear as line comments of the outermost record only.
-/

namespace ApiTypings

inductive Shape where
  | interface (fields : List Field)
  | alias (type : TypeExpr)
  /-- An empty interface that stands for other declarations. -/
  | marker (combines : List String)
  /-- A type that depends on a literal: the branches are tried in order. -/
  | selector (param : String) (discriminants : List String) (branches : List (String × TypeExpr))
      (fallback : TypeExpr)
  deriving Repr

structure Declaration where
  name : String
  shape : Shape
  deriving Repr

/-- A field on a line of its own, its description behind it. -/
def Field.line (f : Field) : String :=
  "  " ++ f.emit ++ ";" ++
    (match f.description with
      | some d => " // " ++ Text.singleLine d
      | none => "") ++ "\n"

namespace Declaration

def branchLine (param : String) (branch : String × TypeExpr) : String :=
  "  " ++ param ++ " extends " ++ Identifier.literal branch.1 ++ " ? " ++ branch.2.emit ++ " :\n"

def combinesComment (names : List String) : String :=
  if names.isEmpty then ""
  else "// Combines: " ++ Text.join ", " names ++ "\n" ++
    "// Each part is sent through its own channel; pick one with the selector type.\n"

/-- The text of a declaration, which ends with a line break. -/
def emit (d : Declaration) : String :=
  match d.shape with
  | .interface [] => "export interface " ++ d.name ++ " \x7b\x7d\n"
  | .interface fields =>
    "export interface " ++ d.name ++ " \x7b\n" ++ Text.join "" (fields.map Field.line) ++ "\x7d\n"
  | .alias type => "export type " ++ d.name ++ " = " ++ type.emit ++ ";\n"
  | .marker combines =>
    combinesComment combines ++ "export interface " ++ d.name ++ " \x7b\x7d\n"
  | .selector param discriminants branches fallback =>
    "export type " ++ d.name ++ "<" ++ param ++ " extends " ++
      Text.join " | " (discriminants.map Identifier.literal) ++ "> =\n" ++
      Text.join "" (branches.map (branchLine param)) ++ "  " ++ fallback.emit ++ ";\n"

end Declaration

end ApiTypings
