import RowTree.MySql.Options
import RowTree.Url.Reader

/-!
# Connections

A connection URL names the kind of database by its scheme, the host, and the
database by its path. `connect` chooses the driver of a URL; `MySql.checkUrl`
says whether the driver for MySQL can use one.
-/

namespace RowTree

def refuseUrl {α : Type} (problem : ConnectionProblem) : Except Error α :=
  .error (.of (.connection problem))

def readUrl (given : String) : Except Error Url :=
  match Url.ofText given with
  | .ok url => .ok url
  | .error fault => refuseUrl (.unreadable fault given)

/-- Opens the database at a URL with the driver for MySQL, if it is there. There
are no drivers for other schemes. -/
def connect {α : Type} (mySql : Option (String → Except Error α)) (given : String) :
    Except Error α := do
  let url ← readUrl given
  if url.scheme = "mysql" then
    match mySql with
    | some openUrl => openUrl given
    | none => refuseUrl .withoutMySql
  else refuseUrl (.unsupported url.scheme given)

/-- A MySQL URL has a host, a database and only known options. -/
def MySql.checkUrl (given : String) : Except Error Unit := do
  let url ← readUrl given
  if url.scheme ≠ "mysql" then refuseUrl (.otherScheme url.text)
  if url.host?.isNone then refuseUrl (.noHost url.text)
  if url.path.text.all (· == '/') then refuseUrl (.noDatabase url.text)
  match checkOptions (Url.queryPairs (url.query.getD [])) with
  | .ok () => .ok ()
  | .error problem => refuseUrl problem

end RowTree
