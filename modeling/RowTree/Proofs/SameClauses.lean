import RowTree.Proofs.SameForm
import RowTree.Session.Read

/-!
# Filter texts of one form

Two filter texts have one form if their clauses have the same fields and operators in the same
order, with lists of one length and with the same dates. Then their predicates have one form too,
and what is sent for them is the same text: no character of a value gets into it.
-/

namespace RowTree

open Schema Sql

namespace FilterText

open Text

/-- The clauses that a filter text is made of; a blank text has none. -/
inductive Clauses (text : String) : List Clause → Prop
  | none (blank : trim text.toList = []) : Clauses text []
  | some {clauses : List Clause} (solid : trim text.toList ≠ [])
      (each : List.Forall₂ (fun piece c => clause? piece = .some c) (pieces (trim text.toList))
        clauses) : Clauses text clauses

structure Clause.SameForm (c other : Clause) : Prop where
  field : c.field = other.field
  operator : c.operator = other.operator
  list : c.operator = .inList →
    (split (· == ',') c.value).length = (split (· == ',') other.value).length
  date : c.operator = .before ∨ c.operator = .after →
    ∃ moment, date c.value = .ok moment ∧ date other.value = .ok moment

/-- Values that need not have anything in common. -/
abbrev AnyValues : Value → Value → Prop := fun _ _ => True

variable {c d : Clause}

theorem sameForm_string (s t : String) : (Expr.string s).SameForm AnyValues Eq (.string t) :=
  .value (.single rfl rfl trivial)

theorem sameForm_members {parts others : List (List Char)} (h : parts.length = others.length) :
    List.Forall₂ (Expr.SameForm AnyValues Eq)
      (parts.map fun part => .string (String.ofList (trim part)))
      (others.map fun part => .string (String.ofList (trim part))) := by
  rw [List.forall₂_map_left_iff, List.forall₂_map_right_iff, List.forall₂_iff_zip]
  exact ⟨h, fun _ => sameForm_string _ _⟩

theorem Clause.SameForm.predicate (h : c.SameForm d) (column : Expr) :
    ∃ p q, predicate column c.operator c.value = .ok p ∧
      predicate column d.operator d.value = .ok q ∧ p.SameForm AnyValues Eq q := by
  have hSelf (e : Expr) : e.SameForm AnyValues Eq e :=
    .refl (fun _ => trivial) e
  have hColumn := hSelf column
  rw [← h.operator]
  cases hOperator : c.operator with
  | equal | greater | less =>
    exact ⟨_, _, rfl, rfl, .compare hColumn (sameForm_string _ _)⟩
  | contains | beginsWith | endsWith => exact ⟨_, _, rfl, rfl, .like hColumn trivial⟩
  | inList => exact ⟨_, _, rfl, rfl, .inList hColumn (sameForm_members (h.list hOperator))⟩
  | before =>
    obtain ⟨moment, hDate, hOther⟩ := h.date (.inl hOperator)
    exact ⟨_, _, congrArg (Except.map _) hDate, congrArg (Except.map _) hOther,
      hSelf (.compare .less column moment)⟩
  | after =>
    obtain ⟨moment, hDate, hOther⟩ := h.date (.inr hOperator)
    exact ⟨_, _, congrArg (Except.map _) hDate, congrArg (Except.map _) hOther,
      hSelf (.compare .greater column moment)⟩

variable {piece other : List Char}

theorem Clause.SameForm.readClause (h : c.SameForm d) (hPiece : clause? piece = some c)
    (hOther : clause? other = some d) (fields : List Field) :
    (∃ problem, readClause fields piece = .error problem ∧
      readClause fields other = .error problem) ∨
    ∃ p q, readClause fields piece = .ok p ∧ readClause fields other = .ok q ∧
      p.SameForm AnyValues Eq q := by
  rw [FilterText.readClause, FilterText.readClause, hPiece, hOther]
  dsimp only
  rw [← h.field]
  cases (findField? fields (String.ofList c.field)).bind Field.expr? with
  | none => exact .inl ⟨_, rfl, rfl⟩
  | some column => exact .inr (h.predicate column)

theorem sameForm_readClauses {pieces others : List (List Char)} {clauses clauses' : List Clause}
    (hClauses : List.Forall₂ (fun piece c => clause? piece = some c) pieces clauses)
    (hOthers : List.Forall₂ (fun piece c => clause? piece = some c) others clauses')
    (h : List.Forall₂ Clause.SameForm clauses clauses') (fields : List Field) :
    (∃ problem, pieces.mapM (FilterText.readClause fields) = .error problem ∧
      others.mapM (FilterText.readClause fields) = .error problem) ∨
    ∃ ps qs, pieces.mapM (FilterText.readClause fields) = .ok ps ∧
      others.mapM (FilterText.readClause fields) = .ok qs ∧
      List.Forall₂ (Expr.SameForm AnyValues Eq) ps qs := by
  induction h generalizing pieces others with
  | nil =>
    cases hClauses
    cases hOthers
    exact .inr ⟨[], [], rfl, rfl, .nil⟩
  | cons hFirst _ ih =>
    cases hClauses with
    | cons hPiece hClauses =>
    cases hOthers with
    | cons hOther hOthers =>
    rw [List.mapM_cons, List.mapM_cons]
    rcases hFirst.readClause hPiece hOther fields with
      ⟨problem, hLeft, hRight⟩ | ⟨p, q, hLeft, hRight, hSame⟩
    · rw [hLeft, hRight]
      exact .inl ⟨problem, rfl, rfl⟩
    · rw [hLeft, hRight]
      rcases ih hClauses hOthers with
        ⟨problem, hRest, hOtherRest⟩ | ⟨ps, qs, hRest, hOtherRest, hAll⟩
      · exact .inl ⟨problem, by rw [hRest]; rfl, by rw [hOtherRest]; rfl⟩
      · exact .inr ⟨p :: ps, q :: qs, by rw [hRest]; rfl, by rw [hOtherRest]; rfl, .cons hSame hAll⟩

theorem sameForm_all {ps qs : List Expr} (h : List.Forall₂ (Expr.SameForm AnyValues Eq) ps qs) :
    Option.Rel (Expr.SameForm AnyValues Eq) (Expr.all ps) (Expr.all qs) := by
  match h with
  | .nil => exact .none
  | .cons hOnly .nil => exact .some hOnly
  | .cons hFirst (.cons hSecond hRest) => exact .some (.conj (.cons hFirst (.cons hSecond hRest)))

theorem Clauses.ne_nil {text : String} {clauses : List Clause} (h : Clauses text clauses)
    (hSolid : trim text.toList ≠ []) : clauses ≠ [] := by
  rintro rfl
  cases h with
  | none hBlank => exact hSolid hBlank
  | some _ hEach => exact pieces_ne_nil _ (List.forall₂_nil_right_iff.mp hEach)

theorem sameForm_read {text other : String} {clauses clauses' : List Clause}
    (hClauses : Clauses text clauses) (hOthers : Clauses other clauses')
    (h : List.Forall₂ Clause.SameForm clauses clauses') (fields : List Field) :
    (∃ e, read text fields = .error e ∧ read other fields = .error e) ∨
    ∃ e e', read text fields = .ok e ∧ read other fields = .ok e' ∧
      Option.Rel (Expr.SameForm AnyValues Eq) e e' := by
  cases hClauses with
  | none hBlank =>
    obtain rfl := List.forall₂_nil_left_iff.mp h
    have hOther : trim other.toList = [] := by
      by_contra hSolid
      exact hOthers.ne_nil hSolid rfl
    exact .inr ⟨none, none, read_of_blank hBlank fields, read_of_blank hOther fields, .none⟩
  | some hSolid hEach =>
    cases hOthers with
    | none _ =>
      obtain rfl := List.forall₂_nil_right_iff.mp h
      exact absurd (List.forall₂_nil_right_iff.mp hEach) (pieces_ne_nil _)
    | some hOther hEachOther =>
      rw [read, if_neg (by simpa using hSolid), read, if_neg (by simpa using hOther)]
      rcases sameForm_readClauses hEach hEachOther h fields with
        ⟨problem, hLeft, hRight⟩ | ⟨ps, qs, hLeft, hRight, hAll⟩
      · exact .inl ⟨.of (.filter problem), by rw [hLeft], by rw [hRight]⟩
      · exact .inr ⟨_, _, by rw [hLeft], by rw [hRight], sameForm_all hAll⟩

end FilterText

namespace Session

variable {α β : Type}

/-- It leaves the log as it was or adds to its end. -/
def Extends (session : Session α) : Prop := ∀ log, log <+: (session.run log).2

theorem Extends.bind {session : Session α} {next : α → Session β} (h : session.Extends)
    (hNext : ∀ v, (next v).Extends) : (session >>= next).Extends := by
  intro log
  have hFirst := h log
  rw [run_bind]
  rcases hRun : session.run log with ⟨_ | v, later⟩
  · rw [hRun] at hFirst
    exact hFirst
  · rw [hRun] at hFirst
    exact hFirst.trans (hNext v later)

theorem extends_ofExcept (result : Except Error α) : (ofExcept result).Extends :=
  fun log => List.prefix_refl log

theorem extends_pure (v : α) : (pure v : Session α).Extends := extends_ofExcept (.ok v)

end Session

open Session

variable {α : Type}

/-- Whatever comes of it, the log goes on with the statement that is executed first. -/
theorem isPrefix_of_execute (driver : Driver) (s : Statement) {next : Reply → Session α}
    (hNext : ∀ reply, (next reply).Extends) (log : Log) :
    log ++ [s] <+: ((driver.execute s >>= next).run log).2 := by
  rw [run_bind]
  rcases hReply : driver log s with e | reply
  · have hRun : (driver.execute s).run log = (.error e, log ++ [s]) := Prod.ext hReply rfl
    simp only [hRun, List.prefix_refl]
  · have hRun : (driver.execute s).run log = (.ok reply, log ++ [s]) := Prod.ext hReply rfl
    simp only [hRun]
    exact hNext reply (log ++ [s])

mutual

theorem isPrefix_readLevel (driver : Driver) (filter : Filter) (page : Option UInt64)
    (model : Model) (log : Log) : log ++ [.query (model.entity.query filter page)] <+:
      ((readLevel driver filter page model).run log).2 := by
  cases model with
  | node entity children =>
    rw [readLevel]
    refine isPrefix_of_execute driver _ (fun reply => ?_) log
    refine (extends_ofExcept _).bind fun records => ?_
    dsimp only
    split
    · exact extends_pure _
    · exact extends_readChildren driver _ children

theorem extends_readChildren (driver : Driver) (parents : List Row) (children : List Model) :
    (readChildren driver parents children).Extends := by
  cases children with
  | nil =>
    rw [readChildren]
    exact extends_pure _
  | cons child rest =>
    rw [readChildren]
    refine (extends_ofExcept _).bind fun found => ?_
    dsimp only
    split
    · exact (extends_pure _).bind fun rows => extends_readChildren driver _ rest
    · refine Extends.bind (fun log => ?_) fun rows => extends_readChildren driver _ rest
      exact (List.prefix_append log _).trans (isPrefix_readLevel driver _ none child log)

end

/-- A filter text that can be read is sent in the query of the model, before anything else. -/
theorem query_of_read {model : Model} {text : String} {e : Option Expr}
    (h : FilterText.read text model.entity.fields = .ok e) (driver : Driver)
    (page : Option UInt64) (log : Log) :
    log ++ [.query (model.entity.query ⟨e⟩ page)] <+:
      ((read driver model (some text) page).run log).2 := by
  rw [read, h, run_bind, run_ofExcept]
  exact isPrefix_readLevel driver ⟨e⟩ page model log

namespace Sales

open FilterText Text

def ports : String := "Town contains Port and SaleID in 7,8"

/-- The same fields and operators, with values that try to get out of their place. -/
def escape : String := "Town contains %'\")`-- AND SaleID in $1)--,?'"

def portClauses : List Clause :=
  [⟨"Town".toList, .contains, "Port".toList⟩, ⟨"SaleID".toList, .inList, "7,8".toList⟩]

def escapeClauses : List Clause :=
  [⟨"Town".toList, .contains, "%'\")`--".toList⟩, ⟨"SaleID".toList, .inList, "$1)--,?'".toList⟩]

def portPredicates : List Expr :=
  [(Expr.columnOf 2 "name").contains "Port",
    .inList (.columnOf 0 "id") [.string "7", .string "8"]]

def escapePredicates : List Expr :=
  [(Expr.columnOf 2 "name").contains "%'\")`--",
    .inList (.columnOf 0 "id") [.string "$1)--", .string "?'"]]

def saleQuery (predicates : List Expr) : Statement :=
  .query (sale.query ⟨some (.conj predicates)⟩ none)

theorem pieces_ports :
    pieces (trim ports.toList) = ["Town contains Port".toList, "SaleID in 7,8".toList] := by
  have hCut : firstCut? (trim ports.toList) =
      some ("Town contains Port".toList, "SaleID in 7,8".toList) := by decide
  rw [pieces_of_some hCut, pieces_of_none (by decide)]

theorem pieces_escape : pieces (trim escape.toList) =
    ["Town contains %'\")`--".toList, "SaleID in $1)--,?'".toList] := by
  have hCut : firstCut? (trim escape.toList) =
      some ("Town contains %'\")`--".toList, "SaleID in $1)--,?'".toList) := by decide
  rw [pieces_of_some hCut, pieces_of_none (by decide)]

theorem clauses_ports : Clauses ports portClauses := by
  refine .some (by decide) ?_
  rw [pieces_ports]
  exact .cons rfl (.cons rfl .nil)

theorem clauses_escape : Clauses escape escapeClauses := by
  refine .some (by decide) ?_
  rw [pieces_escape]
  exact .cons rfl (.cons rfl .nil)

theorem sameForm_clauses : List.Forall₂ Clause.SameForm portClauses escapeClauses :=
  .cons ⟨rfl, rfl, nofun, nofun⟩ (.cons ⟨rfl, rfl, fun _ => by decide, nofun⟩ .nil)

theorem read_ports : FilterText.read ports sale.fields = .ok (some (.conj portPredicates)) := by
  rw [FilterText.read, if_neg (by decide), pieces_ports]
  rfl

theorem sameForm_saleQuery :
    (saleQuery portPredicates).SameForm AnyValues Eq (saleQuery escapePredicates) := by
  have hColumn (table : Nat) (name : String) :
      (Expr.columnOf table name).SameForm AnyValues Eq (Expr.columnOf table name) :=
    .column (some table) rfl
  have hTown : Expr.SameForm AnyValues Eq ((Expr.columnOf 2 "name").contains "Port")
      ((Expr.columnOf 2 "name").contains "%'\")`--") := .like (hColumn 2 "name") trivial
  have hSaleID := Expr.SameForm.inList (hColumn 0 "id")
    (.cons (sameForm_string "7" "$1)--") (.cons (sameForm_string "8" "?'") .nil))
  have hFilter : Filter.SameForm AnyValues Eq ⟨some (.conj portPredicates)⟩
      ⟨some (.conj escapePredicates)⟩ := .some (.conj (.cons hTown (.cons hSaleID .nil)))
  exact .query (sameForm_query (fun _ => trivial) sale hFilter none)

end Sales

end RowTree
