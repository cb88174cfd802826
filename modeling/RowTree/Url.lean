import RowTree.Url.Host
import RowTree.Url.Path

/-!
# URLs

A URL as its parts, each percent-encoded, and its text. Schemes of the web and
of files have rules of their own for hosts and paths; all others are alike.
-/

namespace RowTree

namespace Url

inductive SchemeKind where
  | file
  /-- A scheme of the web, with the number that an authority need not give. -/
  | web (defaultPort : Nat)
  | other
  deriving DecidableEq

def SchemeKind.ofScheme : String → SchemeKind
  | "file" => file
  | "http" | "ws" => web 80
  | "https" | "wss" => web 443
  | "ftp" => web 21
  | _ => other

def SchemeKind.isSpecial (kind : SchemeKind) : Bool := kind != other

/-- A backslash is a slash under the schemes with rules of their own. -/
def SchemeKind.isSlash (kind : SchemeKind) (c : Char) : Bool :=
  c == '/' || (kind.isSpecial && c == '\\')

/-- What follows two slashes. The number after the host is present when the
scheme does not imply it. -/
structure Authority where
  user : List Char
  password : List Char
  host : Host
  portNumber : Option Nat

inductive Path where
  | segments (path : Segments)
  /-- A text that is no path of segments. -/
  | plain (text : List Char)

end Url

structure Url where
  scheme : String
  authority : Option Url.Authority
  path : Url.Path
  query : Option (List Char)
  fragment : Option (List Char)

namespace Url

def marked (mark : Char) : Option (List Char) → List Char
  | some part => mark :: part
  | none => []

def Authority.hasUser (a : Authority) : Bool := !a.user.isEmpty || !a.password.isEmpty

def Authority.text (a : Authority) : List Char :=
  let password := if a.password.isEmpty then none else some a.password
  let user := if a.hasUser then a.user ++ marked ':' password ++ ['@'] else []
  user ++ a.host.text ++ marked ':' (a.portNumber.map (Nat.toDigits 10))

def Path.text : Path → List Char
  | segments path => path.text
  | plain text => text

/-- A path that starts with two slashes and has no authority before it would be
read as one; a segment of one dot keeps them apart. -/
def body (url : Url) : List Char :=
  match url.authority with
  | some a => '/' :: '/' :: a.text ++ url.path.text
  | none =>
    match url.path.text with
    | '/' :: '/' :: rest => '/' :: '.' :: '/' :: '/' :: rest
    | path => path

def text (url : Url) : String :=
  String.ofList (url.scheme.toList ++ ':' :: url.body ++ marked '?' url.query
    ++ marked '#' url.fragment)

def host? (url : Url) : Option Host :=
  (url.authority.map (·.host)).filter (!·.isEmpty)

end Url

end RowTree
