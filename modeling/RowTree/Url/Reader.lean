import RowTree.Url

/-!
# Reading URLs

The parts of a text, by the rules of the URL standard for a text that stands
alone. The scheme decides how the rest is read: where a host is expected, what
counts as a slash, and which characters are encoded.
-/

namespace RowTree.Url

def clean (text : List Char) : List Char :=
  let outer (c : Char) : Bool := c.toNat ≤ 0x20
  ((text.dropWhile outer).reverse.dropWhile outer).reverse

def cutScheme? (text : List Char) : Option (String × List Char) :=
  let (scheme, after) := Text.cut (· == ':') text
  match withoutBreaks scheme, after with
  | first :: rest, some after =>
    if first.isAlpha && rest.all (fun c => c.isAlphanum || ['+', '-', '.'].contains c) then
      some (String.ofList (Text.lower (first :: rest)), after)
    else none
  | _, _ => none

def cutUser (authority : List Char) : Option (List Char) × List Char :=
  match authority.reverse.dropWhile (· != '@') with
  | [] => (none, authority)
  | _ :: user => (some user.reverse, (authority.reverse.takeWhile (· != '@')).reverse)

/-- The host and what follows it: a colon in brackets does not end a host. -/
def cutHost (inBrackets : Bool) : List Char → List Char × List Char
  | [] => ([], [])
  | c :: rest =>
    if c = ':' ∧ !inBrackets then ([], c :: rest)
    else
      let (host, after) := cutHost (c == '[' || (inBrackets && c != ']')) rest
      (c :: host, after)

/-- Digits up to the end or up to a backslash, and the text from there on. -/
def cutPort (kind : SchemeKind) (text : List Char) : Except Fault (Option Nat × List Char) :=
  let digits := text.takeWhile Char.isDigit
  let rest := text.dropWhile Char.isDigit
  match numeral? 10 digits with
  | some n =>
    if 65535 < n ∨ (rest ≠ [] ∧ rest.head? ≠ some '\\') then .error .portNumber
    else if digits.isEmpty ∨ kind = .web n then .ok (none, rest)
    else .ok (some n, rest)
  | none => .error .portNumber

/-- Reads what follows two slashes, up to the path, and gives what is left over
of it to the path. `continues` says that something follows it. -/
def Authority.ofText (kind : SchemeKind) (text : List Char) (continues : Bool) :
    Except Fault (Authority × List Char) := do
  let (user, after) := cutUser text
  if user = some [] ∧ after = [] ∧ continues then throw .emptyHost
  let (user, password) := Text.cut (· == ':') (user.getD [])
  let user := percentEncode inUserInfo user
  let password := percentEncode inUserInfo (password.getD [])
  let (hostText, rest) := cutHost false after
  if hostText.isEmpty ∧ (kind.isSpecial ∨ rest ≠ [] ∨ user ≠ [] ∨ password ≠ []) then
    throw .emptyHost
  let host ← Host.ofText kind.isSpecial hostText
  match rest with
  | ':' :: digits =>
    let (number, left) ← cutPort kind digits
    return (⟨user, password, host, number⟩, left)
  | left => return (⟨user, password, host, none⟩, left)

/-- The path that a text stands for. The slash at its front separates no
segments. -/
def segmentsOf (kind : SchemeKind) (text : List Char) : Segments :=
  let inner :=
    match text with
    | c :: rest => if kind.isSlash c then rest else text
    | [] => []
  if text.isEmpty ∧ !kind.isSpecial then []
  else (Walk.through false (Text.split kind.isSlash inner)).path

/-- The authority and the path of a text that starts after two slashes. -/
def authorityAndPath (kind : SchemeKind) (text : List Char) (continues : Bool) :
    Except Fault (Authority × Segments) := do
  let name := text.takeWhile (!kind.isSlash ·)
  let path := text.dropWhile (!kind.isSlash ·)
  let (authority, left) ← Authority.ofText kind name (continues || !path.isEmpty)
  return (authority, segmentsOf kind (left ++ path))

/-- What follows one slash at the front, if there is one. Breaks before it do not
count. -/
def afterSlash? (text : List Char) : Option (List Char) :=
  match skipBreaks text with
  | c :: rest => if SchemeKind.file.isSlash c then some rest else none
  | [] => none

/-- The host that a name before the path of a file stands for. `localhost` is
none. -/
def fileHost (name : List Char) : Except Fault Host := do
  let host ← if name.isEmpty then pure (.name []) else Host.ofText true name
  return if host.text = "localhost".toList then .name [] else host

/-- The host of a text after two slashes, and the rest of the text, of which all
segments are the path. A drive letter is no host. Behind a host the path starts
after its slash; where there is no host, that slash makes an empty segment. -/
def hostOfFile (text : List Char) : Except Fault (Host × List Char) := do
  let isSlash := SchemeKind.file.isSlash
  let name := withoutBreaks (text.takeWhile (!isSlash ·))
  let path := text.dropWhile (!isSlash ·)
  if isDriveLetter name then return (.name [], text)
  let host ← fileHost name
  return (host, if host.isEmpty then path else path.drop 1)

/-- The authority of a file is its host, and a drive has none. Its path starts
with one slash. -/
def fileAuthorityAndPath (text : List Char) : Except Fault (Authority × Segments) := do
  let (host, inner) ←
    match afterSlash? text with
    | some rest =>
      match afterSlash? rest with
      | some name => hostOfFile name
      | none => pure (.name [], rest)
    | none => pure (.name [], text)
  let walk := Walk.through true (Text.split SchemeKind.file.isSlash inner)
  let path := walk.path.dropWhile List.isEmpty
  let host := if walk.onDrive then .name [] else host
  return (⟨[], [], host, none⟩, if path.isEmpty then [[]] else path)

/-- The authority and the path of what stands between the scheme and the query.
`continues` says that a query or a fragment follows it. -/
def hierarchy (kind : SchemeKind) (text : List Char) (continues : Bool) :
    Except Fault (Option Authority × Path) := do
  match kind, withoutBreaks text with
  | .file, _ =>
    let (authority, path) ← fileAuthorityAndPath text
    return (some authority, .segments path)
  | .web _, plain =>
    let (authority, path) ← authorityAndPath kind (plain.dropWhile kind.isSlash) continues
    return (some authority, .segments path)
  | .other, '/' :: '/' :: rest =>
    let (authority, path) ← authorityAndPath kind rest continues
    return (some authority, .segments path)
  | .other, '/' :: rest => return (none, .segments (segmentsOf kind ('/' :: rest)))
  | .other, plain => return (none, .plain (percentEncode isControl plain))

def encodedPart (set : Char → Bool) (part : Option (List Char)) : Option (List Char) :=
  part.map fun text => percentEncode set (withoutBreaks text)

def ofText (given : String) : Except Fault Url := do
  let some (scheme, after) := cutScheme? (clean given.toList) | throw .relativeWithoutBase
  let (front, fragment) := Text.cut (· == '#') after
  let (body, query) := Text.cut (· == '?') front
  let kind := SchemeKind.ofScheme scheme
  let (authority, path) ← hierarchy kind body (query.isSome || fragment.isSome)
  return {
    scheme, authority, path
    query := encodedPart (if kind.isSpecial then inSpecialQuery else inQuery) query
    fragment := encodedPart inFragment fragment }

end RowTree.Url
