/-!
# Schemes

What the scheme of a URL says about its other parts. The schemes of web addresses and
files are special: backslashes count as slashes, the host is a name or an address, and
the path is never empty.
-/

namespace ApiTypings.Url

def defaultPort? (scheme : String) : Option Nat :=
  match scheme with
  | "http" => some 80
  | "ws" => some 80
  | "https" => some 443
  | "wss" => some 443
  | "ftp" => some 21
  | _ => none

def isFile (scheme : String) : Bool := scheme == "file"

def isSpecial (scheme : String) : Bool := (defaultPort? scheme).isSome || isFile scheme

/-- Whether a character ends a segment of a path. -/
def isSlash (scheme : String) (c : Char) : Bool := c == '/' || (isSpecial scheme && c == '\\')

end ApiTypings.Url
