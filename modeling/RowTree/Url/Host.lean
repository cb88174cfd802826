import RowTree.Url.Address
import RowTree.Url.Domain
import RowTree.Url.Fault

/-!
# Hosts of a URL

A host is a name or a network address. Under the schemes of the web a name is a
domain, in lower case and in ASCII; under other schemes it is any text without
the characters that have a meaning in a URL.
-/

namespace RowTree.Url

inductive Host where
  | name (text : List Char)
  | ipv4 (number : Nat)
  | ipv6 (pieces : List Nat)
  deriving DecidableEq

namespace Host

def ofDomain (text : List Char) : Except Fault Host :=
  match Domain.ascii? (Text.decodeFrom .between (percentDecode text)) with
  | none => .error .internationalName
  | some domain =>
    if domain.isEmpty then .error .emptyHost
    else if endsInNumber domain then
      match ipv4? domain with
      | some number => .ok (.ipv4 number)
      | none => .error .ipv4Address
    else .ok (.name domain)

def ofPlainName (text : List Char) : Except Fault Host :=
  if text.any Domain.isReserved then .error .domainCharacter
  else .ok (.name (percentEncode isControl text))

/-- A text in brackets is an IPv6 address. -/
def ofText (isDomain : Bool) (text : List Char) : Except Fault Host :=
  match text with
  | '[' :: inner =>
    match if inner.getLast? = some ']' then ipv6? inner.dropLast else none with
    | some pieces => .ok (.ipv6 pieces)
    | none => .error .ipv6Address
  | _ => if isDomain then ofDomain text else ofPlainName text

def isEmpty (host : Host) : Bool := host == name []

def text : Host → List Char
  | name text => text
  | ipv4 number => ipv4Text number
  | ipv6 pieces => '[' :: ipv6Text pieces ++ [']']

end Host

end RowTree.Url
