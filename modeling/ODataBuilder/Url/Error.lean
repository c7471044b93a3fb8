/-!
# Why a URL could not be read

Reading a URL fails for one of a few reasons, each with a fixed wording: a host that is
missing or malformed (an empty host, a bad domain, a bad IPv4 or IPv6 address, a character
that no host may hold), a port that is not a number below 65536, or a relative reference
with no base to resolve against, or with a base that has no hierarchy.
-/
namespace ODataBuilder

inductive UrlError where
  | emptyHost
  | invalidDomain
  | invalidPort
  | invalidIpv4
  | invalidIpv6
  | invalidDomainCharacter
  | relativeWithoutBase
  | relativeWithOpaqueBase
  deriving Repr, DecidableEq

namespace UrlError

def message : UrlError → String
  | .emptyHost => "empty host"
  | .invalidDomain => "invalid international domain name"
  | .invalidPort => "invalid port number"
  | .invalidIpv4 => "invalid IPv4 address"
  | .invalidIpv6 => "invalid IPv6 address"
  | .invalidDomainCharacter => "invalid domain character"
  | .relativeWithoutBase => "relative URL without a base"
  | .relativeWithOpaqueBase => "relative URL with a cannot-be-a-base base"

end UrlError

end ODataBuilder
