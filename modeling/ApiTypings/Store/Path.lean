import ApiTypings.Text.Basic

/-!
# Paths

A path is a text of components between slashes. Repeated slashes count once. A
component `.` stands for the directory itself and `..` for the one above.
-/

namespace ApiTypings.Path

/-- A path below another. An absolute path replaces the one before it. -/
def join (base path : String) : String :=
  match path.toList with
  | '/' :: _ => path
  | _ =>
    match base.toList.getLast? with
    | none => path
    | some c => if c == '/' then base ++ path else base ++ "/" ++ path

/-- The last component as written, or nothing. -/
def lastName (path : String) : String :=
  ((Text.split (· == '/') path).getLast?).getD ""

def isAbsolute (path : String) : Bool := path.toList.head? == some '/'

/-- A path ending in a slash denotes a directory. -/
def endsInSlash (path : String) : Bool := path.toList.getLast? == some '/'

/-- The components, those of dots included. -/
def components (path : String) : List String :=
  (Text.split (· == '/') path).filter (!·.isEmpty)

/-- The components without those of one dot, except at the start of a relative
path. -/
def plainComponents (path : String) : List String :=
  match components path with
  | [] => []
  | c :: rest =>
    (if c == "." && isAbsolute path then [] else [c]) ++ rest.filter (· != ".")

/-- Where a component leads from a directory. -/
def follow (l : List String) (c : String) : List String :=
  if c == "." then l else if c == ".." then l.dropLast else l ++ [c]

/-- The names that lead from the root to where a path leads from a directory, if
every component before `..` is a directory. -/
def resolve (cwd : List String) (path : String) : List String :=
  (components path).foldl follow (if isAbsolute path then [] else cwd)

end ApiTypings.Path
