import RowTree.Row
import RowTree.Url.Fault

/-!
# Errors

An error is a chain of faults: the first is what failed as seen from outside,
each later one is the cause of the fault before it. A fault says what happened
as data; its wording is in `Fault.message` and the functions under it, and
nowhere else. Every kind of problem has a constructor `stated` for a text that
a caller words.
-/

namespace RowTree

inductive ConnectionProblem where
  | unreadable (fault : Url.Fault) (url : String)
  | unsupported (scheme url : String)
  | withoutMySql
  | otherScheme (url : String)
  | noHost (url : String)
  | noDatabase (url : String)
  | optionValue (name value : String)
  | unknownOption (name : String)
  | poolBounds (least most : Nat)
  | stated (message : String)

inductive DefinitionProblem where
  | noBasisTable
  | badName (name : String)
  | duplicateStep (step : String)
  | stepWithoutJoin (step : String)
  | unknownPreviousStep (step previous : String)
  | unknownJoin (step join table : String)
  | joinWithoutColumns (join : String)
  | unknownJoinColumn (join column table : String)
  | joinColumnWithoutSource (join column : String)
  | duplicateField (field : String)
  | unknownStep (field step : String)
  | unknownColumn (field column table : String)
  | unboundOrder (field : String)
  | staticFilter
  | noParentLink (parent : String)
  | compositeLink
  | unboundParentField (field parent : String)
  | unboundChildField (field : String)
  | duplicateChild (child : String)
  | linklessChild
  | unboundLinkField (field : String)
  | stated (message : String)

inductive FilterProblem where
  | unreadableClause (clause : String)
  | unknownField (field : String)
  | unreadableDate (text : String)
  | offsetTooLarge (text : String)
  | unknownUnit (word : String)
  | stated (message : String)

inductive KeyProblem where
  | noInstanceKey (model : String)
  | noId (model label : String)
  | noColumn (key model : String)
  | stated (message : String)

inductive CountProblem where
  | deleted (model label : String) (count : Nat)
  | stated (message : String)

inductive Remark where
  | savingRow (state : Option RowState) (model label : String)
  | recordsForCount (records : Nat)
  | countForRecords (count : Nat)
  | insertForRecords (count : Nat) (lastId : Option Nat)
  | stated (message : String)

inductive Fault where
  | driver (message : String) (sources : List String)
  | connection (problem : ConnectionProblem)
  | definition (model : String) (problem : DefinitionProblem)
  | filter (problem : FilterProblem)
  | recordCount (problem : CountProblem)
  | missingKey (problem : KeyProblem)
  | saveFailed (model : String) (failed total : Nat)
  | tableNotFound (name : String)
  | remark (remark : Remark)
  /-- An error of another library, shown by its own text. -/
  | foreign (message : String)

def ConnectionProblem.message : ConnectionProblem → String
  | unreadable fault url => fault.message ++ "; url=" ++ url
  | unsupported scheme url => "unsupported database; scheme=" ++ scheme ++ "; url=" ++ url
  | withoutMySql => "`mysql` feature not enabled"
  | otherScheme url => "connection url does not have a `mysql` scheme; url=" ++ url
  | noHost url => "missing host in connection URL; url=" ++ url
  | noDatabase url => "no database specified - missing path in connection URL; url=" ++ url
  | optionValue name value =>
    "Invalid value `" ++ value ++ "' for connection URL parameter `" ++ name ++ "'"
  | unknownOption name => "Unknown connection URL parameter `" ++ name ++ "'"
  | poolBounds least most =>
    "Invalid pool constraints: pool_min (" ++ Nat.repr least ++ ") > pool_max (" ++ Nat.repr most
      ++ ")."
  | stated message => message

def DefinitionProblem.message : DefinitionProblem → String
  | noBasisTable => "basisTable is required"
  | badName name => "`" ++ name ++ "` is not a valid name; use letters, digits, and underscores"
  | duplicateStep step => "duplicate step `" ++ step ++ "`"
  | stepWithoutJoin step => "step `" ++ step ++ "` must define a join"
  | unknownPreviousStep step previous =>
    "step `" ++ step ++ "` follows `" ++ previous ++ "`, which is not declared before it"
  | unknownJoin step join table =>
    "step `" ++ step ++ "` uses join `" ++ join ++ "`, which is not defined on table `" ++ table
      ++ "`"
  | joinWithoutColumns join => "join `" ++ join ++ "` has no columns"
  | unknownJoinColumn join column table =>
    "join `" ++ join ++ "` references column `" ++ column ++ "`, which is not on table `" ++ table
      ++ "`"
  | joinColumnWithoutSource join column =>
    "join `" ++ join ++ "` column `" ++ column ++ "` needs `from` or `fromText`"
  | duplicateField field => "duplicate field `" ++ field ++ "`"
  | unknownStep field step => "field `" ++ field ++ "` references unknown step `" ++ step ++ "`"
  | unknownColumn field column table =>
    "field `" ++ field ++ "` references column `" ++ column ++ "`, which is not on table `"
      ++ table ++ "`"
  | unboundOrder field => "orderBy field `" ++ field ++ "` is not a field with a column"
  | staticFilter => "static filter"
  | noParentLink parent => "child of `" ++ parent ++ "` must declare a parentLink"
  | compositeLink => "only single-column parent links are supported"
  | unboundParentField field parent =>
    "parentLink.parentField `" ++ field ++ "` is not a field of `" ++ parent ++ "` with a column"
  | unboundChildField field =>
    "parentLink.childField `" ++ field ++ "` is not a field with a column"
  | duplicateChild child => "duplicate child model `" ++ child ++ "`"
  | linklessChild => "child model has no parent link"
  | unboundLinkField field => "parent link field `" ++ field ++ "` has no column"
  | stated message => message

def FilterProblem.message : FilterProblem → String
  | unreadableClause clause => "could not parse clause `" ++ clause ++ "`"
  | unknownField field => "unknown field `" ++ field ++ "`"
  | unreadableDate text => "expected NOW or an offset like `-7D`, found `" ++ text ++ "`"
  | offsetTooLarge text => "offset `" ++ text ++ "` is too large"
  | unknownUnit word => "unknown interval unit `" ++ word ++ "`"
  | stated message => message

def KeyProblem.message : KeyProblem → String
  | noInstanceKey model => "model `" ++ model ++ "` has no instance key"
  | noId model label => "row of `" ++ model ++ "` has no id (" ++ label ++ ")"
  | noColumn key model => "instance key `" ++ key ++ "` of `" ++ model ++ "` has no column"
  | stated message => message

def CountProblem.message : CountProblem → String
  | deleted model label count =>
    "expected to delete 1 `" ++ model ++ "` row (" ++ label ++ "), deleted " ++ Nat.repr count
  | stated message => message

def Remark.message : Remark → String
  | savingRow state model label =>
    (state.map RowState.word).getD "unchanged" ++ " `" ++ model ++ "` row " ++ label
  | recordsForCount records =>
    "expected a row count, driver returned " ++ Nat.repr records ++ " records"
  | countForRecords count => "expected records, driver returned Count(" ++ Nat.repr count ++ ")"
  | insertForRecords count lastId =>
    "expected records, driver returned Inserted \x7b count: " ++ Nat.repr count
      ++ ", last_insert_id: "
      ++ (match lastId with | some n => "Some(" ++ Nat.repr n ++ ")" | none => "None") ++ " \x7d"
  | stated message => message

def Fault.message : Fault → String
  | driver message sources => ": ".intercalate (message :: sources)
  | connection problem => "invalid connection URL: " ++ problem.message
  | definition model problem =>
    "invalid model definition `" ++ model ++ "`: " ++ problem.message
  | filter problem => "invalid filter: " ++ problem.message
  | recordCount problem => "invalid record count: " ++ problem.message
  | missingKey problem => "missing instance key: " ++ problem.message
  | saveFailed model failed total =>
    "saving `" ++ model ++ "` failed for " ++ Nat.repr failed ++ " of " ++ Nat.repr total
      ++ " rows"
  | tableNotFound name => "table not found: `" ++ name ++ "`"
  | remark r => r.message
  | foreign message => message

structure Error where
  fault : Fault
  causes : List Fault

namespace Error

def of (fault : Fault) : Error := ⟨fault, []⟩

def chain (e : Error) : List Fault := e.fault :: e.causes

def within (e : Error) (outer : Fault) : Error := ⟨outer, e.chain⟩

/-- The error seen from further outside by a fault that is known elsewhere too,
of which only the words are taken. -/
def withinWords (e : Error) (outer : Fault) : Error :=
  e.within (.remark (.stated outer.message))

def root (e : Error) : Fault := e.causes.getLast?.getD e.fault

def message (e : Error) : String := ": ".intercalate (e.chain.map Fault.message)

/-- The text of the error that the outermost fault was made from, which only a
driver fault and a foreign one have. -/
def source? (e : Error) : Option String :=
  match e.fault with
  | .driver .. | .foreign _ => some e.fault.message
  | _ => none

end Error

end RowTree
