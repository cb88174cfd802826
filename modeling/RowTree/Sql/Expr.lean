import RowTree.Value.Key

/-!
# Expressions

The expressions that statements are made of, and conjunctions of predicates.
`Expr.and` keeps a conjunction flat, in one way for each of the four cases in
which its sides are conjunctions or not. Main statement: `operands_and`, in all
of them the operands are those of the left side and then those of the right.
-/

namespace RowTree.Sql

inductive Comparison where
  | equal
  | notEqual
  | atLeast
  | greater
  | atMost
  | less
  deriving DecidableEq

def Comparison.symbol : Comparison → String
  | equal => "="
  | notEqual => "<>"
  | atLeast => ">="
  | greater => ">"
  | atMost => "<="
  | less => "<"

inductive Interval where
  | day
  | week
  | month
  | year
  deriving DecidableEq

def Interval.word : Interval → String
  | day => "DAY"
  | week => "WEEK"
  | month => "MONTH"
  | year => "YEAR"

inductive Expr where
  | conj (operands : List Expr)
  | compare (op : Comparison) (lhs rhs : Expr)
  /-- A column of the table with the alias number, or of the only table. -/
  | column (table : Option Nat) (name : String)
  | now
  /-- The current time moved by an amount of units, backwards if it is negative. -/
  | shiftedNow (amount : Int64) (unit : Interval)
  | inList (subject : Expr) (list : List Expr)
  /-- The pattern holds its wildcards already. -/
  | like (subject : Expr) (pattern : String)
  /-- A constant text that is part of the statement and never a parameter. -/
  | literal (text : String)
  | value (v : Value)

namespace Expr

/-- The predicates that a conjunction joins; any other expression is its own
only operand. -/
def operands : Expr → List Expr
  | conj es => es
  | e => [e]

/-- A side that is a conjunction takes in the other side: its operands at the end if both are
conjunctions, else the whole of it at the end or in front. -/
def and : Expr → Expr → Expr
  | conj es, conj fs => conj (es ++ fs)
  | conj es, f => conj (es ++ [f])
  | e, conj fs => conj (e :: fs)
  | e, f => conj [e, f]

/-- The conjunction of a list: a single predicate stays bare, and of no
predicate there is none. -/
def all : List Expr → Option Expr
  | [] => none
  | [e] => some e
  | es => some (conj es)

def columnOf (table : Nat) (name : String) : Expr := column (some table) name

def bareColumn (name : String) : Expr := column none name

def string (s : String) : Expr := value (.string s)

def contains (subject : Expr) (text : String) : Expr := like subject ("%" ++ text ++ "%")

def beginsWith (subject : Expr) (text : String) : Expr := like subject (text ++ "%")

def endsWith (subject : Expr) (text : String) : Expr := like subject ("%" ++ text)

def value? : Expr → Option Value
  | value v => some v
  | _ => none

def columnName? : Expr → Option String
  | column _ name => some name
  | _ => none

theorem and_eq_conj (lhs rhs : Expr) : lhs.and rhs = conj (lhs.operands ++ rhs.operands) := by
  cases lhs with
  | conj es =>
    cases rhs with
    | conj fs => rfl
    | _ => rfl
  | _ =>
    cases rhs with
    | conj fs => rfl
    | _ => rfl

theorem operands_and (lhs rhs : Expr) : (lhs.and rhs).operands = lhs.operands ++ rhs.operands := by
  rw [and_eq_conj, operands]

end Expr

structure Filter where
  expr? : Option Expr := none

namespace Filter

def isEmpty (filter : Filter) : Bool := filter.expr?.isNone

def operands (filter : Filter) : List Expr := (filter.expr?.map Expr.operands).getD []

def add (filter : Filter) (e : Expr) : Filter :=
  match filter.expr? with
  | some old => ⟨some (old.and e)⟩
  | none => ⟨some e⟩

def narrow (filter other : Filter) : Filter :=
  match other.expr? with
  | some e => filter.add e
  | none => filter

theorem operands_add (filter : Filter) (e : Expr) :
    (filter.add e).operands = filter.operands ++ e.operands := by
  obtain ⟨_ | old⟩ := filter <;> simp [add, operands, Expr.operands_and]

end Filter

end RowTree.Sql
