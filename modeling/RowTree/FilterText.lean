import RowTree.FilterText.Clause
import RowTree.FilterText.Pieces

/-!
# Filter texts

A filter text is a list of clauses with AND or OR between them. All clauses
must hold, whichever of the two words joins them.
-/

namespace RowTree.FilterText

open Text Sql Schema

/-- The predicate of a filter text over some fields; a blank text has none. The
first clause that cannot be read is the error. -/
def read (text : String) (fields : List Field) : Except Error (Option Expr) :=
  let trimmed := trim text.toList
  if trimmed.isEmpty then .ok none
  else
    match (pieces trimmed).mapM (readClause fields) with
    | .ok predicates => .ok (Expr.all predicates)
    | .error problem => .error (.of (.filter problem))

end RowTree.FilterText
