import ApiTypings.Url.Error
import ApiTypings.Url.Form
import ApiTypings.Url.Path

/-!
# URLs

A URL taken apart. Its parts are encoded as they stand in its text.
-/

namespace ApiTypings

/-- Who is asked, and at which host. -/
structure Authority where
  user : String
  password : String
  host : String
  port : Option Nat
  deriving DecidableEq, Repr

structure Url where
  scheme : String
  authority : Option Authority
  path : UrlPath
  query : Option String
  fragment : Option String
  deriving DecidableEq, Repr

/-- An empty password is not shown. -/
def Authority.text (a : Authority) : String :=
  let credentials :=
    if a.user.isEmpty && a.password.isEmpty then ""
    else a.user ++ (if a.password.isEmpty then "" else ":" ++ a.password) ++ "@"
  credentials ++ a.host ++
    (match a.port with
      | some p => ":" ++ toString p
      | none => "")

namespace Url

/-- What stands between the scheme and the path. A path that starts with two
slashes must not be taken for a host. -/
def beforePath (u : Url) : String :=
  match u.authority, u.path with
  | some a, _ => "//" ++ a.text
  | none, .segments ("" :: _ :: _) => "/."
  | none, _ => ""

/-- A part with the mark in front of it, if the part is there. -/
def marked (mark : String) : Option String → String
  | some s => mark ++ s
  | none => ""

def text (u : Url) : String :=
  u.scheme ++ ":" ++ u.beforePath ++ u.path.text ++ marked "?" u.query ++ marked "#" u.fragment

/-- The same URL with a slash at the end of its path, which is then resolved again. -/
def withSlash (u : Url) : Url :=
  match u.path with
  | .segments ss =>
    if ss.getLast? == some "" then u
    else { u with path := .segments (Trail.ofText u.scheme (u.path.text ++ "/").toList).segments }
  | .plain s =>
    if s.isEmpty then { u with path := .plain "%2F" }
    else if s.toList.getLast? == some '/' then u
    else { u with path := .plain (s ++ "/") }

/-- The URL that segments below the directory of another one denote. Query and
fragment are not inherited. -/
def below (u : Url) (segments : List String) : Except UrlError Url :=
  match u.path with
  | .plain _ => .error .opaqueBase
  | .segments ss =>
    .ok { u with path := .segments (ss.dropLast ++ segments), query := none, fragment := none }

/-- The same URL with the given names and values as its query. -/
def withPairs (u : Url) (pairs : List (String × String)) : Url :=
  { u with query := some (Form.query pairs) }

end Url

end ApiTypings
