import ApiTypings.Assoc
import ApiTypings.Store.Basic
import ApiTypings.Store.Path

/-!
# File trees

The files and directories of a system without links, by the names that lead to
them from the root. Paths are resolved one component at a time and every
component before the last has to be a directory that exists, also when `..`
follows it.

Operations follow the POSIX calls of the same purpose: `mkdir` refuses whatever
exists, opening for writing refuses directories and paths that end in a slash,
and a failing call changes nothing. Making a directory together with its missing
parents is a series of such calls, so it may fail after having made some of them.
-/

namespace ApiTypings

inductive Entry where
  | file (text : String)
  | directory
  deriving DecidableEq, Repr

abbrev Location := List String

structure FileTree where
  entries : List (Location × Entry)
  deriving DecidableEq, Repr

inductive CallError where
  | notFound
  | alreadyExists
  | notDirectory
  | isDirectory
  | nameTooLong
  | zeroCharacter
  deriving DecidableEq, Repr

def CallError.message : CallError → String
  | .notFound => "No such file or directory (os error 2)"
  | .alreadyExists => "File exists (os error 17)"
  | .notDirectory => "Not a directory (os error 20)"
  | .isDirectory => "Is a directory (os error 21)"
  | .nameTooLong => "File name too long (os error 36)"
  | .zeroCharacter => "file name contained an unexpected NUL byte"

namespace FileTree

def empty : FileTree := ⟨[]⟩

/-- What is at a location. The root is always a directory. -/
def find? (t : FileTree) (l : Location) : Option Entry :=
  if l = [] then some .directory else Assoc.find? l t.entries

/-- The tree with an entry put at a location. -/
def put (t : FileTree) (l : Location) (e : Entry) : FileTree := ⟨Assoc.put l e t.entries⟩

def maxName : Nat := 255

def maxPath : Nat := 4095

/-- Goes from a directory into the directory that a component names. -/
def enter (t : FileTree) (l : Location) (c : String) : Except CallError Location :=
  if c == "." then .ok l
  else if c == ".." then .ok l.dropLast
  else if maxName < c.utf8ByteSize then .error .nameTooLong
  else
    match t.find? (l ++ [c]) with
    | some .directory => .ok (l ++ [c])
    | some (.file _) => .error .notDirectory
    | none => .error .notFound

/-- Goes along components that all name directories. -/
def walk (t : FileTree) (l : Location) : List String → Except CallError Location
  | [] => .ok l
  | c :: rest =>
    match t.enter l c with
    | .ok l => t.walk l rest
    | .error e => .error e

/-- What the last component of a path means inside the directory before it. -/
inductive Target where
  /-- The directory itself, or one above it. -/
  | directory (l : Location)
  /-- A name inside a directory. -/
  | name (l : Location) (name : String)

/-- Where a path leads, its last component aside. -/
def locate (t : FileTree) (cwd : Location) (path : String) : Except CallError Target :=
  if path.toList.contains '\x00' then .error .zeroCharacter
  else if path.isEmpty then .error .notFound
  else if maxPath < path.utf8ByteSize then .error .nameTooLong
  else
    let components := Path.components path
    let start := if Path.isAbsolute path then [] else cwd
    match t.walk start components.dropLast with
    | .error e => .error e
    | .ok l =>
      match components.getLast? with
      | none => .ok (.directory l)
      | some last =>
        if last == "." then .ok (.directory l)
        else if last == ".." then .ok (.directory l.dropLast)
        else .ok (.name l last)

/-- What a path leads to. -/
def lookup (t : FileTree) (cwd : Location) (path : String) : Except CallError (Location × Entry) :=
  match t.locate cwd path with
  | .error e => .error e
  | .ok (.directory l) => .ok (l, .directory)
  | .ok (.name l name) =>
    if maxName < name.utf8ByteSize then .error .nameTooLong
    else
      match t.find? (l ++ [name]) with
      | none => .error .notFound
      | some .directory => .ok (l ++ [name], .directory)
      | some (.file text) =>
        if Path.endsInSlash path then .error .notDirectory else .ok (l ++ [name], .file text)

def isDirectory (t : FileTree) (cwd : Location) (path : String) : Bool :=
  match t.lookup cwd path with
  | .ok (_, .directory) => true
  | _ => false

def isFile (t : FileTree) (cwd : Location) (path : String) : Bool :=
  match t.lookup cwd path with
  | .ok (_, .file _) => true
  | _ => false

def read (t : FileTree) (cwd : Location) (path : String) : Except CallError String :=
  match t.lookup cwd path with
  | .ok (_, .file text) => .ok text
  | .ok (_, .directory) => .error .isDirectory
  | .error e => .error e

def makeDirectory (t : FileTree) (cwd : Location) (path : String) : Except CallError FileTree :=
  match t.locate cwd path with
  | .error e => .error e
  | .ok (.directory _) => .error .alreadyExists
  | .ok (.name l name) =>
    if maxName < name.utf8ByteSize then .error .nameTooLong
    else if (t.find? (l ++ [name])).isSome then .error .alreadyExists
    else .ok (t.put (l ++ [name]) .directory)

/-- Writes a file, replacing what it held. -/
def writeFile (t : FileTree) (cwd : Location) (path text : String) : Except CallError FileTree :=
  match t.locate cwd path with
  | .error e => .error e
  | .ok (.directory _) => .error .isDirectory
  | .ok (.name l name) =>
    if Path.endsInSlash path then .error .isDirectory
    else if maxName < name.utf8ByteSize then .error .nameTooLong
    else if t.find? (l ++ [name]) = some .directory then .error .isDirectory
    else .ok (t.put (l ++ [name]) (.file text))

/-- The path of components below a start. -/
def pathOf (absolute : Bool) (components : List String) : String :=
  (if absolute then "/" else "") ++ Text.join "/" components

/-- Makes a directory; a directory that is there already will do. -/
def provide (t : FileTree) (cwd : Location) (path : String) : FileTree × Option CallError :=
  match t.makeDirectory cwd path with
  | .ok t => (t, none)
  | .error e => (t, if t.isDirectory cwd path then none else some e)

/-- Makes the directory of a path, after the ones above it when one of them is
missing. The components of the directories above, innermost first, are given. -/
def provideAbove (t : FileTree) (cwd : Location) (absolute : Bool) (path : String) :
    List String → FileTree × Option CallError
  | [] => t.provide cwd path
  | c :: above =>
    match t.makeDirectory cwd path with
    | .error .notFound =>
      match t.provideAbove cwd absolute (pathOf absolute (c :: above).reverse) above with
      | (t, none) => t.provide cwd path
      | (t, some e) => (t, some e)
    | _ => t.provide cwd path

def ensureDirectory (t : FileTree) (cwd : Location) (path : String) : FileTree × Option CallError :=
  if path.isEmpty then (t, none)
  else
    t.provideAbove cwd (Path.isAbsolute path) path (Path.plainComponents path).dropLast.reverse

/-- The store of a file tree, relative paths starting from a directory. -/
def store (cwd : Location) : Store FileTree where
  ensureDirectory t path :=
    match t.ensureDirectory cwd path with
    | (t, e) => (t, e.map fun e => .createDirectory path e.message)
  write t path text :=
    match t.writeFile cwd path text with
    | .ok t => (t, none)
    | .error e => (t, some (.write path e.message))

/-- The entries below a location, by path from there. Directories that hold
nothing are listed with a slash at the end, others are left out. -/
def listing (t : FileTree) (l : Location) : List (String × Option String) :=
  t.entries.filterMap fun (place, e) =>
    if l.isPrefixOf place && place != l then
      let path := Text.join "/" (place.drop l.length)
      match e with
      | .file text => some (path, some text)
      | .directory =>
        if t.entries.any fun (other, _) => place.isPrefixOf other && other != place then none
        else some (path ++ "/", none)
    else none

end FileTree

end ApiTypings
