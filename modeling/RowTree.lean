import RowTree.Compile
import RowTree.Connection
import RowTree.Json.Reader
import RowTree.Json.Writer
import RowTree.MySql.Wire
import RowTree.Row.Json
import RowTree.Session.Read
import RowTree.Session.Save
import RowTree.Sql.Draft
import RowTree.Proofs.Compiled
import RowTree.Proofs.Subtrees
import RowTree.Proofs.Dues
import RowTree.Proofs.Journal
import RowTree.Proofs.Written
import RowTree.Proofs.Order
import RowTree.Proofs.Keys
import RowTree.Proofs.Again
import RowTree.Proofs.Cascade
import RowTree.Proofs.KeyCheck
import RowTree.Proofs.Columns
import RowTree.Proofs.Scoping
import RowTree.Proofs.Acceptance
import RowTree.Proofs.Needs
import RowTree.Proofs.Rounds
import RowTree.Proofs.Blame
import RowTree.Proofs.Sharing
import RowTree.Proofs.Connectives
import RowTree.Proofs.LineBreaks
import RowTree.Proofs.Drafts
import RowTree.Proofs.Unambiguous
import RowTree.Proofs.Narrowing
import RowTree.Proofs.SameClauses
import RowTree.Proofs.Tokens
import RowTree.Proofs.Shifts
import RowTree.Proofs.Stored
import RowTree.Proofs.Alone
import RowTree.Proofs.Integrity
import RowTree.Proofs.RowTexts
import RowTree.Proofs.TableTexts
import RowTree.Proofs.Kept
import RowTree.Proofs.Identity
import RowTree.Proofs.Asked
import RowTree.Proofs.Quantities
import RowTree.Proofs.SameKeys
import RowTree.Proofs.Backslashes
import RowTree.Proofs.Failures
import RowTree.Proofs.OperatorWords
import RowTree.Proofs.Wildcards
import RowTree.Proofs.Repeats
import RowTree.Proofs.JoinTargets
import RowTree.Proofs.Lockstep
import RowTree.Proofs.LeftOut
import RowTree.Proofs.NullIds
import RowTree.Proofs.Pages
import RowTree.Proofs.Moments
import RowTree.Proofs.Parameters
import RowTree.Proofs.Preloads
import RowTree.Proofs.Conjunctions
import RowTree.Proofs.ModelNames
