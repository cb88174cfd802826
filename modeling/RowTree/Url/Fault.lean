/-!
# Faults of a URL

Why a text is not a URL.
-/

namespace RowTree.Url

inductive Fault where
  | emptyHost
  | internationalName
  | portNumber
  | ipv4Address
  | ipv6Address
  | domainCharacter
  | relativeWithoutBase
  deriving DecidableEq

def Fault.message : Fault → String
  | .emptyHost => "empty host"
  | .internationalName => "invalid international domain name"
  | .portNumber => "invalid port number"
  | .ipv4Address => "invalid IPv4 address"
  | .ipv6Address => "invalid IPv6 address"
  | .domainCharacter => "invalid domain character"
  | .relativeWithoutBase => "relative URL without a base"

end RowTree.Url
