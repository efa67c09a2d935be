import ApiTypings.Url.Basic
import ApiTypings.Url.Host

/-!
# Reading a URL

A text is a URL when it starts with a scheme. Two slashes after it announce an
authority, which a special scheme has without them as well.
-/

namespace ApiTypings.Url

open Percent Text

/-- Control characters and spaces around a text do not count, nor do tabs and line
breaks anywhere. -/
def cleaned (s : String) : List Char :=
  let strip := List.dropWhile fun c : Char => c.toNat ≤ 0x20
  (strip (strip s.toList).reverse).reverse.filter fun c => c != '\t' && c != '\n' && c != '\r'

/-- The scheme in lower case, and what follows its colon. -/
def splitScheme (cs : List Char) : Option (String × List Char) :=
  let scheme := cs.takeWhile fun c => c.isAlphanum || c == '+' || c == '-' || c == '.'
  match scheme, cs.drop scheme.length with
  | c :: _, ':' :: rest =>
    if c.isAlpha then some (.ofList (scheme.map Char.toLower), rest) else none
  | _, _ => none

/-- Splits host and port at the last colon outside brackets. -/
def splitPort (cs : List Char) : List Char × Option (List Char) :=
  match cs with
  | '[' :: _ =>
    match splitFirst (· == ']') cs with
    | (host, some (':' :: port)) => (host ++ [']'], some port)
    | (host, some []) => (host ++ [']'], none)
    | _ => (cs, none)
  | _ => splitFirst (· == ':') cs

/-- A port of at most 65535; an empty one counts as not given. -/
def port? (cs : List Char) : Except UrlError (Option Nat) :=
  if cs.isEmpty then .ok none
  else if !cs.all Char.isDigit then .error .badPort
  else
    let n := cs.foldl (fun n c => n * 10 + (c.toNat - '0'.toNat)) 0
    if n ≤ 65535 then .ok (some n) else .error .badPort

/-- User name and password, before the last at sign. -/
def splitUser (cs : List Char) : Option (List Char) × List Char :=
  match splitFirst (· == '@') cs.reverse with
  | (host, some user) => (some user.reverse, host.reverse)
  | (_, none) => (none, cs)

/-- The authority of a URL, and the start of its path if a backslash ends the port. The
usual port of a scheme is not kept. -/
def parseAuthority (scheme : String) (cs : List Char) : Except UrlError (Authority × List Char) :=
  let special := isSpecial scheme
  let (info, rest) := splitUser cs
  let (user, password) := splitFirst (· == ':') (info.getD [])
  let user := encode inUserInfo user
  let password := encode inUserInfo (password.getD [])
  let (host, port) := splitPort rest
  let digits := (port.getD []).takeWhile (· != '\\')
  if host.isEmpty && (special || port.isSome || !user.isEmpty || !password.isEmpty) then
    .error .emptyHost
  else
    match Host.parse special host with
    | .error e => .error e
    | .ok host =>
      match port? digits with
      | .error e => .error e
      | .ok number =>
        .ok (⟨.ofList user, .ofList password, host,
          if number == defaultPort? scheme then none else number⟩,
          (port.getD []).drop digits.length)

/-- The host and path of a file. A drive is no host, and the host `localhost` is none. -/
def parseFile (cs : List Char) : Except UrlError (String × List Char) :=
  let isMark := isSlash "file"
  match cs with
  | a :: b :: rest =>
    if isMark a && isMark b then
      let host := rest.takeWhile (!isMark ·)
      let path := rest.dropWhile (!isMark ·)
      if isDrive host then .ok ("", '/' :: rest)
      else if host.isEmpty then .ok ("", path)
      else
        (Host.parse true host).map fun host => (if host == "localhost" then "" else host, path)
    else .ok ("", cs)
  | _ => .ok ("", cs)

/-- The authority and path of a URL, from what stands before query and fragment. An at
sign alone is an authority only where the URL ends. -/
def parseHierarchy (scheme : String) (ends : Bool) (cs : List Char) :
    Except UrlError (Option Authority × UrlPath) :=
  let isEnd := isSlash scheme
  let below (rest : List Char) : Except UrlError (Option Authority × UrlPath) :=
    let path := rest.dropWhile (!isEnd ·)
    let authority := rest.takeWhile (!isEnd ·)
    if authority == ['@'] && !(ends && path.isEmpty) then .error .emptyHost
    else
      (parseAuthority scheme authority).map fun (a, start) =>
        (some a, .segments (Trail.ofText scheme (start ++ path)).segments)
  if isFile scheme then
    (parseFile cs).map fun (host, path) =>
      let t := Trail.ofText scheme path
      (some ⟨"", "", if t.onDrive then "" else host, none⟩, .segments t.segments)
  else if isSpecial scheme then below (cs.dropWhile isEnd)
  else
    match cs with
    | '/' :: '/' :: rest => below rest
    | '/' :: _ => .ok (none, .segments (Trail.ofText scheme cs).segments)
    | _ => .ok (none, .plain (.ofList (encode isPlain cs)))

def parse (s : String) : Except UrlError Url :=
  match splitScheme (cleaned s) with
  | none => .error .noScheme
  | some (scheme, rest) =>
    let (rest, fragment) := splitFirst (· == '#') rest
    let (rest, query) := splitFirst (· == '?') rest
    match parseHierarchy scheme (query.isNone && fragment.isNone) rest with
    | .error e => .error e
    | .ok (authority, path) =>
      .ok ⟨scheme, authority, path,
        query.map fun q => .ofList (encode (inQuery (isSpecial scheme)) q),
        fragment.map fun f => .ofList (encode inFragment f)⟩

end ApiTypings.Url
