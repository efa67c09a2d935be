import ApiTypings.Url.Percent
import ApiTypings.Url.Scheme

/-!
# Paths

The path of a URL is either a list of segments below a root or, for URLs like
`mailto:x`, text without structure. Segments of one or two dots are resolved when a path
is read, also when a dot is percent encoded. A letter with a colon or a bar names a
drive, and two dots do not lead out of it. Files have rules of their own: a drive in
front stands for the host as well, and empty segments in front are dropped.
-/

namespace ApiTypings

inductive UrlPath where
  /-- Each segment comes after a slash. -/
  | segments (segments : List String)
  | plain (text : String)
  deriving DecidableEq, Repr

def UrlPath.text : UrlPath → String
  | .segments ss => Text.join "" (ss.map ("/" ++ ·))
  | .plain s => s

namespace Url

open Percent

/-- The spellings of one dot. -/
def isSingleDot (s : List Char) : Bool :=
  [".", "%2e"].contains (String.ofList (s.map Char.toLower))

/-- The spellings of two dots. -/
def isDoubleDot (s : List Char) : Bool :=
  ["..", ".%2e", "%2e.", "%2e%2e"].contains (String.ofList (s.map Char.toLower))

/-- A drive letter with a colon or a bar. -/
def isDrive : List Char → Bool
  | [a, b] => a.isAlpha && (b == ':' || b == '|')
  | _ => false

/-- Whether two dots stay in a segment: it is a drive or starts with one and a
backslash. -/
def isKeptByDots : List Char → Bool
  | a :: b :: '\\' :: _ => isDrive [a, b]
  | s => isDrive s

/-- Drops the last segment, unless two dots stay in it. -/
def shorten (segments : List String) : List String :=
  if segments.getLast?.any fun s => isKeptByDots s.toList then segments else segments.dropLast

/-- The segments of a path as far as it is read. -/
structure Trail where
  segments : List String
  /-- Whether the path of a file starts with its drive. -/
  onDrive : Bool
  deriving DecidableEq, Repr

/-- One more segment of a path. The drive of a file is written with a colon, and what
follows the colon is a segment of its own. -/
def Trail.add (file : Bool) (t : Trail) (s : List Char) : Trail :=
  let text (s : List Char) : String := .ofList (encode inPath s)
  if isSingleDot s then t
  else if isDoubleDot s then { t with segments := shorten t.segments }
  else
    match file && t.segments.isEmpty, s with
    | true, [a, b] => if isDrive [a, b] then ⟨[.ofList [a, ':']], true⟩ else ⟨[text s], false⟩
    | true, a :: ':' :: rest =>
      if a.isAlpha then ⟨[.ofList [a, ':'], text rest], false⟩ else ⟨[text s], false⟩
    | _, _ => { t with segments := t.segments ++ [text s] }

/-- Resolves segments. Dots at the end leave an empty segment. -/
def Trail.resolve (file : Bool) (segments : List (List Char)) : Trail :=
  let t := segments.foldl (Trail.add file) ⟨[], false⟩
  if segments.getLast?.any fun s => isSingleDot s || isDoubleDot s then
    { t with segments := t.segments ++ [""] }
  else t

/-- Drops empty segments in front, one aside if there are no others. -/
def withoutEmptyFront (segments : List String) : List String :=
  match segments.dropWhile String.isEmpty with
  | [] => [""]
  | s :: rest => s :: rest

/-- The segments of a path. Only a path that is not special may be empty. -/
def Trail.ofText (scheme : String) (cs : List Char) : Trail :=
  match cs with
  | [] => ⟨if isSpecial scheme then [""] else [], false⟩
  | c :: rest =>
    let body := if isSlash scheme c then rest else c :: rest
    let t := Trail.resolve (isFile scheme) (Text.splitChars (isSlash scheme) body)
    if isFile scheme then { t with segments := withoutEmptyFront t.segments } else t

end Url

end ApiTypings
