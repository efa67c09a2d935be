/-!
# Why a URL is refused
-/

namespace ApiTypings

inductive UrlError where
  /-- There is no scheme, and nothing to resolve the text against. -/
  | noScheme
  | emptyHost
  | badDomain
  /-- A host that is kept as written holds a character it may not. -/
  | badHostCharacter
  | badPort
  | badIpv4
  | badIpv6
  /-- A relative path has no meaning below a URL without slashes after its scheme. -/
  | opaqueBase
  deriving DecidableEq, Repr

def UrlError.message : UrlError → String
  | .noScheme => "relative URL without a base"
  | .emptyHost => "empty host"
  | .badDomain => "invalid international domain name"
  | .badHostCharacter => "invalid domain character"
  | .badPort => "invalid port number"
  | .badIpv4 => "invalid IPv4 address"
  | .badIpv6 => "invalid IPv6 address"
  | .opaqueBase => "relative URL with a cannot-be-a-base base"

end ApiTypings
