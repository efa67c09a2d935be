import ApiTypings.Toml.Basic
import ApiTypings.Toml.Text

/-!
# Reading TOML

A document is a list of lines: a header in brackets, a key with its value, or
nothing but a comment. Keys after a header belong to its table.

Of the values, truth values, times and numbers with a fraction are refused, and so
are headers in double brackets: no setting can be any of these.
-/

namespace ApiTypings.Toml

def skipBlanks (cs : List Char) : List Char := cs.dropWhile isBlank

/-- Skips blanks, line breaks and comments. -/
def skipLines (inComment : Bool) : List Char → List Char
  | [] => []
  | c :: rest =>
    if inComment then skipLines (c != '\n') rest
    else if isBlank c || c == '\n' then skipLines false rest
    else if c == '#' then skipLines true rest
    else c :: rest

/-- Nothing but blanks and a comment may stand before the end of a line. -/
def endLine (cs : List Char) : Option (List Char) :=
  let cs := skipBlanks cs
  let cs := if cs.head? == some '#' then cs.dropWhile (· != '\n') else cs
  match cs with
  | [] => some []
  | c :: rest => if c == '\n' then some rest else none

/-- A key: names with dots between them, of which there are fewer than `fuel`. -/
def readKeyWithin : Nat → List Char → Option (List String × List Char)
  | 0, _ => none
  | fuel + 1, cs => do
    let (name, rest) ← readName (skipBlanks cs)
    match skipBlanks rest with
    | '.' :: rest =>
      let (names, rest) ← readKeyWithin fuel rest
      some (name :: names, rest)
    | rest => some ([name], rest)

def readKey (cs : List Char) : Option (List String × List Char) := readKeyWithin (cs.length + 1) cs

/-- The key and the equals sign of a pair, and the blanks after them. -/
def readPairStart (cs : List Char) : Option (List String × List Char) := do
  let (key, rest) ← readKey cs
  match rest with
  | '=' :: rest => some (key, skipBlanks rest)
  | _ => none

def isNumeral (c : Char) : Bool := c.isAlphanum || c == '_' || c == '+' || c == '-'

def readScalar (cs : List Char) : Option (Toml × List Char) :=
  match readText cs with
  | some (s, rest) => some (.text s, rest)
  | none => (integer? (cs.takeWhile isNumeral)).map fun n => (.integer n, cs.dropWhile isNumeral)

mutual
def readValueWithin : Nat → List Char → Option (Toml × List Char)
  | 0, _ => none
  | fuel + 1, cs =>
    match cs with
    | '[' :: rest => (readItems fuel (skipLines false rest)).map fun (items, r) => (.array items, r)
    | '\x7b' :: rest =>
      match skipBlanks rest with
      | '\x7d' :: rest => some (.table .inline [], rest)
      | rest => (readPairs fuel [] rest).map fun (entries, r) => (.table .inline entries, r)
    | _ => readScalar cs

/-- The items of an array up to its closing bracket; a comma may stand before it. -/
def readItems : Nat → List Char → Option (List Toml × List Char)
  | 0, _ => none
  | fuel + 1, cs =>
    match cs with
    | ']' :: rest => some ([], rest)
    | _ => do
      let (v, rest) ← readValueWithin fuel cs
      match skipLines false rest with
      | ',' :: rest =>
        let (items, rest) ← readItems fuel (skipLines false rest)
        some (v :: items, rest)
      | ']' :: rest => some ([v], rest)
      | _ => none

/-- The pairs of an inline table up to its closing brace. -/
def readPairs : Nat → Entries → List Char → Option (Entries × List Char)
  | 0, _, _ => none
  | fuel + 1, entries, cs => do
    let (key, rest) ← readPairStart cs
    let (v, rest) ← readValueWithin fuel rest
    let entries ← assign v key entries
    match skipBlanks rest with
    | ',' :: rest => readPairs fuel entries rest
    | '\x7d' :: rest => some (entries, rest)
    | _ => none
end

def readValue (cs : List Char) : Option (Toml × List Char) := readValueWithin (cs.length + 1) cs

inductive Statement where
  | header (path : List String)
  | pair (key : List String) (value : Toml)

def readStatement (cs : List Char) : Option (Statement × List Char) :=
  match cs with
  | '[' :: rest => do
    let (path, rest) ← readKey rest
    match rest with
    | ']' :: rest => some (.header path, ← endLine rest)
    | _ => none
  | _ => do
    let (key, rest) ← readPairStart cs
    let (value, rest) ← readValue rest
    some (.pair key value, ← endLine rest)

def readStatements : Nat → List Char → Option (List Statement)
  | 0, _ => none
  | fuel + 1, cs =>
    match skipLines false cs with
    | [] => some []
    | cs => do
      let (s, rest) ← readStatement cs
      some (s :: (← readStatements fuel rest))

/-- Carries out statements, given the path of the last header. -/
def build : List Statement → List String → Entries → Option Entries
  | [], _, entries => some entries
  | .header path :: rest, _, entries => (openTable path entries).bind (build rest path)
  | .pair key value :: rest, path, entries =>
    (within (assign value key) path entries).bind (build rest path)

/-- A byte order mark at the start of a document does not count. -/
def withoutMark : List Char → List Char
  | '\uFEFF' :: rest => rest
  | cs => cs

def read (text : String) : Option Entries := do
  let cs ← clean? (withoutMark text.toList)
  let statements ← readStatements (cs.length + 1) cs
  build statements [] []

end ApiTypings.Toml
