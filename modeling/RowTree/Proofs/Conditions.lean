import RowTree.Proofs.Readings

/-!
# Delimited conditions

A condition is a predicate between terms, or a conjunction of these. In the dialects of MySQL and
PostgreSQL terms, predicates and conditions delimit themselves among the words that may come after
them, although there are no parentheses around them.
-/

namespace RowTree.Sql

namespace Expr

/-- The expression has no others in it and is no list. -/
def isTerm : Expr → Bool
  | column _ _ | now | shiftedNow _ _ | literal _ => true
  | value v => !v.isList
  | conj _ | compare _ _ _ | inList _ _ | like _ _ => false

/-- A predicate between terms. The list of an `IN` has a member. -/
def isPredicate : Expr → Bool
  | compare _ lhs rhs => lhs.isTerm && rhs.isTerm
  | like subject _ => subject.isTerm
  | inList subject list => subject.isTerm && (!list.isEmpty && list.all isTerm)
  | conj _ | column _ _ | now | shiftedNow _ _ | literal _ | value _ => false

/-- One predicate, or a conjunction of at least two. -/
def isCondition : Expr → Bool
  | conj operands => decide (2 ≤ operands.length) && operands.all isPredicate
  | e => e.isPredicate

end Expr

def afterOrder : List String := [" LIMIT "]

def afterFilter : List String := " ORDER BY " :: afterOrder

def afterJoins : List String := " WHERE " :: afterFilter

def afterCondition : List String := " INNER JOIN " :: " LEFT JOIN " :: afterJoins

def afterPredicate : List String := " AND " :: afterCondition

/-- What a predicate says of its subject. -/
def verbs : List String := [" = ", " <> ", " >= ", " > ", " <= ", " < ", " LIKE ", " IN ("]

/-- No sign is among them, with which a moment could go on. -/
def afterTerm : List String := verbs ++ [" AS ", " DESC", " ASC", ", ", ")"] ++ afterPredicate

def afterName : List String := afterTerm ++ [" (", " SET ", " FROM ", ") VALUES ("]

variable {dialect : Dialect} {ps qs : List Piece}

theorem word_append_inj {unit other : Interval} {u v : List Char}
    (h : unit.word.toList ++ u = other.word.toList ++ v) : unit = other ∧ u = v := by
  cases unit <;> cases other <;> simp_all [Interval.word]

theorem measure_append_inj {m n : Nat} {unit other : Interval} {u v : List Char}
    (h : m.repr.toList ++ (" ".toList ++ (unit.word.toList ++ u)) =
      n.repr.toList ++ (" ".toList ++ (other.word.toList ++ v))) :
    m = n ∧ unit = other ∧ u = v := by
  have hBlank (text : List Char) : DigitFree (" ".toList ++ text) := by
    intro c hc
    cases hc
    rfl
  obtain ⟨hNumber, hRest⟩ := repr_append_inj (hBlank _) (hBlank _) h
  rw [List.append_cancel_left_eq] at hRest
  obtain ⟨hUnit, hAfter⟩ := word_append_inj hRest
  exact ⟨hNumber, hUnit, hAfter⟩

theorem eq_of_natAbs_eq {amount other : Int64} (hBack : amount < 0 ↔ other < 0)
    (hSize : amount.toInt.natAbs = other.toInt.natAbs) : amount = other := by
  rw [Int64.lt_iff_toInt_lt, Int64.lt_iff_toInt_lt, Int64.toInt_zero] at hBack
  apply Int64.toInt_inj.mp
  omega

theorem ite_append_inj {p q : Prop} [Decidable p] [Decidable q] {yes no : String}
    (hLength : yes.toList.length = no.toList.length) (hNe : yes ≠ no) {u v : List Char}
    (h : (if p then yes else no).toList ++ u = (if q then yes else no).toList ++ v) :
    (p ↔ q) ∧ u = v := by
  obtain ⟨hWord, hRest⟩ := List.append_inj h (by split <;> split <;> simp [hLength])
  refine ⟨?_, hRest⟩
  rw [String.toList_inj] at hWord
  by_cases hp : p <;> by_cases hq : q <;> simp_all [hNe.symm]

/-- A moment before or after now is told by its direction, its number and its unit. -/
theorem coincide_shift (hDialect : dialect ≠ .sqlite) {amount other : Int64}
    {unit unit' : Interval} (hps : Follows dialect (Onward afterTerm) ps)
    (hqs : Follows dialect (Onward afterTerm) qs)
    (h : Coincide dialect (shiftPieces dialect amount unit ++ ps)
      (shiftPieces dialect other unit' ++ qs)) :
    (amount = other ∧ unit = unit') ∧ Coincide dialect ps qs := by
  obtain ⟨bound, hText, hParams⟩ := h
  rw [paramsOf_append, paramsOf_append, paramsOf_shiftPieces, paramsOf_shiftPieces] at hParams
  cases dialect with
  | sqlite => exact absurd rfl hDialect
  | mySql =>
    simp only [shiftPieces, List.singleton_append, chars_plain, String.toList_append,
      List.append_assoc] at hText
    obtain ⟨hBack, hText⟩ := ite_append_inj (by decide) (by decide) hText
    rw [List.append_cancel_left_eq] at hText
    obtain ⟨hSize, hUnit, hText⟩ := measure_append_inj hText
    rw [List.append_cancel_left_eq] at hText
    exact ⟨⟨eq_of_natAbs_eq hBack hSize, hUnit⟩, bound, hText, hParams⟩
  | postgreSql =>
    simp only [shiftPieces, List.cons_append, List.nil_append, chars_plain, String.toList_append,
      List.append_assoc] at hText
    rw [List.append_cancel_left_eq] at hText
    obtain ⟨hBack, hText⟩ := ite_append_inj (by decide) (by decide) hText
    rw [List.append_cancel_left_eq] at hText
    obtain ⟨hMeasure, hRest⟩ := Coincide.constant ⟨bound, hText, hParams⟩
      (hps.no_quote (by decide)) (hqs.no_quote (by decide))
    have hChars := congrArg (String.toList · ++ []) hMeasure
    simp only [String.toList_append, List.append_assoc] at hChars
    obtain ⟨hSize, hUnit, _⟩ := measure_append_inj hChars
    exact ⟨⟨eq_of_natAbs_eq hBack hSize, hUnit⟩, hRest⟩

theorem not_coincide_now_shift {amount : Int64} {unit : Interval}
    (hps : Follows dialect (Onward afterTerm) ps) (hDialect : dialect ≠ .sqlite) :
    ¬ Coincide dialect (nowPieces dialect ++ ps) (shiftPieces dialect amount unit ++ qs) := by
  rintro ⟨bound, hText, -⟩
  cases dialect with
  | sqlite => exact hDialect rfl
  | mySql =>
    simp only [nowPieces, shiftPieces, List.singleton_append, chars_plain, String.toList_append,
      List.append_assoc] at hText
    split at hText <;> simp at hText
  | postgreSql =>
    simp only [nowPieces, shiftPieces, List.cons_append, List.nil_append, chars_plain,
      String.toList_append, List.append_assoc] at hText
    rw [List.append_cancel_left_eq] at hText
    have hNext := hps bound
    rw [hText] at hNext
    split at hNext
    · exact (by decide : Apart afterTerm " - ").not_onward _ hNext
    · exact (by decide : Apart afterTerm " + ").not_onward _ hNext

/-- How a term begins. -/
inductive TermForm where
  | numbered
  | bare
  | moment
  | constant
  | placeholder

def formOf : Char → Option TermForm
  | 't' => some .numbered
  | '\x60' | '"' => some .bare
  | 'N' | 'D' => some .moment
  | '\'' => some .constant
  | '?' | '$' => some .placeholder
  | _ => none

def Expr.form : Expr → Option TermForm
  | column (some _) _ => some .numbered
  | column none _ => some .bare
  | now | shiftedNow _ _ => some .moment
  | literal _ => some .constant
  | value _ => some .placeholder
  | conj _ | compare _ _ _ | inList _ _ | like _ _ => none

theorem valuePieces_of_isList {v : Value} (h : v.isList = false) : valuePieces v = [.param v] := by
  cases v with
  | list items => cases h
  | _ => rfl

theorem form_of_chars {e : Expr} (h : e.isTerm = true) (hDialect : dialect ≠ .sqlite)
    (ps : List Piece) (bound : Nat) :
    (chars dialect bound (e.pieces dialect ++ ps)).head?.bind formOf = e.form := by
  cases e with
  | conj _ | compare _ _ _ | inList _ _ | like _ _ => cases h
  | column table name =>
    cases table with
    | none =>
      rw [Expr.pieces, List.singleton_append, chars_name]
      cases dialect <;> rfl
    | some table => simp [Expr.pieces, aliasPiece, String.toList_append, formOf, Expr.form]
  | now =>
    cases dialect with
    | sqlite => exact absurd rfl hDialect
    | mySql | postgreSql => simp [Expr.pieces, nowPieces, formOf, Expr.form]
  | shiftedNow amount unit =>
    cases dialect with
    | sqlite => exact absurd rfl hDialect
    | mySql =>
      simp only [Expr.pieces, shiftPieces, List.singleton_append, chars_plain, String.toList_append,
        List.append_assoc]
      split <;> simp [formOf, Expr.form]
    | postgreSql => simp [Expr.pieces, shiftPieces, String.toList_append, formOf, Expr.form]
  | literal text => simp [Expr.pieces, chars_constant, formOf, Expr.form]
  | value v =>
    rw [Expr.isTerm, Bool.not_eq_true'] at h
    rw [Expr.pieces, valuePieces_of_isList h, List.singleton_append, chars_param]
    cases dialect with
    | sqlite => exact absurd rfl hDialect
    | mySql | postgreSql => simp [Dialect.placeholder, String.toList_append, formOf, Expr.form]

theorem name_delimits :
    SelfDelimiting dialect (fun name => [Piece.name name]) (fun _ => True) afterName := by
  have hQuote : afterName.all (fun w => w.toList.head?.any (· != dialect.nameQuote)) = true := by
    cases dialect <;> decide
  exact fun _ _ _ _ _ _ hps hqs h => Coincide.name h (hps.no_quote hQuote) (hqs.no_quote hQuote)

theorem coincide_column {table table' : Option Nat} {name name' : String}
    (hps : Follows dialect (Onward afterTerm) ps) (hqs : Follows dialect (Onward afterTerm) qs)
    (hForm : (Expr.column table name).form = (Expr.column table' name').form)
    (h : Coincide dialect ((Expr.column table name).pieces dialect ++ ps)
      ((Expr.column table' name').pieces dialect ++ qs)) :
    Expr.column table name = .column table' name' ∧ Coincide dialect ps qs := by
  have hAfter {name name' : String}
      (h : Coincide dialect (.name name :: ps) (.name name' :: qs)) :=
    name_delimits trivial trivial (hps.mono (by decide)) (hqs.mono (by decide)) h
  cases table with
  | none =>
    cases table' with
    | some _ => cases hForm
    | none =>
      obtain ⟨rfl, hRest⟩ := hAfter h
      exact ⟨rfl, hRest⟩
  | some table =>
    cases table' with
    | none => cases hForm
    | some table' =>
      have hDot (rest : List Piece) : Follows dialect DigitFree (.plain "." :: rest) :=
        (Follows.word (List.mem_singleton.mpr rfl)).digitFree (by decide)
      obtain ⟨rfl, hName⟩ := Coincide.number h (hDot _) (hDot _)
      obtain ⟨rfl, hRest⟩ := hAfter hName.plain
      exact ⟨rfl, hRest⟩

theorem coincide_value {v w : Value} (hv : (Expr.value v).isTerm = true)
    (hw : (Expr.value w).isTerm = true)
    (h : Coincide dialect ((Expr.value v).pieces dialect ++ ps)
      ((Expr.value w).pieces dialect ++ qs)) :
    Expr.value v = .value w ∧ Coincide dialect ps qs := by
  rw [Expr.isTerm, Bool.not_eq_true'] at hv hw
  rw [Expr.pieces, Expr.pieces, valuePieces_of_isList hv, valuePieces_of_isList hw] at h
  obtain ⟨rfl, hRest⟩ := Coincide.param h
  exact ⟨rfl, hRest⟩

theorem term_delimits (hDialect : dialect ≠ .sqlite) :
    SelfDelimiting dialect (Expr.pieces dialect) (·.isTerm = true) afterTerm := by
  intro e f ps qs he hf hps hqs h
  have hForm : e.form = f.form := by
    obtain ⟨bound, hText, -⟩ := h
    rw [← form_of_chars he hDialect ps bound, hText, form_of_chars hf hDialect]
  cases e with
  | conj _ | compare _ _ _ | inList _ _ | like _ _ => cases he
  | column table name =>
    cases f with
    | column table' name' => exact coincide_column hps hqs hForm h
    | _ => cases table <;> cases hForm
  | now =>
    cases f with
    | now => exact ⟨rfl, h.of_append _⟩
    | shiftedNow _ _ => exact absurd h (not_coincide_now_shift hps hDialect)
    | column table _ => cases table <;> cases hForm
    | _ => cases hForm
  | shiftedNow amount unit =>
    cases f with
    | now => exact absurd h.symm (not_coincide_now_shift hqs hDialect)
    | shiftedNow _ _ =>
      obtain ⟨⟨rfl, rfl⟩, hRest⟩ := coincide_shift hDialect hps hqs h
      exact ⟨rfl, hRest⟩
    | column table _ => cases table <;> cases hForm
    | _ => cases hForm
  | literal text =>
    cases f with
    | literal other =>
      obtain ⟨rfl, hRest⟩ := Coincide.constant h (hps.no_quote (by decide)) (hqs.no_quote (by decide))
      exact ⟨rfl, hRest⟩
    | column table _ => cases table <;> cases hForm
    | _ => cases hForm
  | value v =>
    cases f with
    | value w => exact coincide_value he hf h
    | column table _ => cases table <;> cases hForm
    | _ => cases hForm

/-- No word that something else begins with is the beginning of a term. -/
theorem not_onward_term {e : Expr} (h : e.isTerm = true) (hDialect : dialect ≠ .sqlite)
    {words : List String}
    (hWords : words.all (fun w => w.toList.head?.any (formOf · |>.isNone)) = true) (bound : Nat) :
    ¬ Onward words (chars dialect bound (e.pieces dialect ++ ps)) := by
  intro hOnward
  have hForm := form_of_chars h hDialect ps bound
  have hSome : e.form.isSome = true := by
    cases e with
    | conj _ | compare _ _ _ | inList _ _ | like _ _ => cases h
    | column table _ => cases table <;> rfl
    | _ => rfl
  rw [← hForm] at hSome
  obtain ⟨form, hSome⟩ := Option.isSome_iff_exists.mp hSome
  obtain ⟨c, hc, hFormed⟩ := Option.bind_eq_some_iff.mp hSome
  have hNone := hOnward.head hWords c hc
  rw [hFormed] at hNone
  cases hNone

theorem terms_delimit (hDialect : dialect ≠ .sqlite) :
    SelfDelimiting dialect (fun es => commas (es.map (Expr.pieces dialect)))
      (fun es => es ≠ [] ∧ ∀ e ∈ es, e.isTerm = true) [")"] :=
  (term_delimits hDialect).separated _ ", " (by decide) (by decide) (by decide)

namespace Expr

def subject : Expr → Expr
  | compare _ lhs _ => lhs
  | like subject _ | inList subject _ => subject
  | e => e

def verb : Expr → String
  | compare op _ _ => " " ++ op.symbol ++ " "
  | like _ _ => " LIKE "
  | inList _ _ => " IN ("
  | _ => ""

/-- What comes after the verb of a predicate. -/
def object (dialect : Dialect) : Expr → List Piece
  | compare _ _ rhs => rhs.pieces dialect
  | like _ pattern => [.param (.string pattern)]
  | inList _ list => commas (list.map (pieces dialect)) ++ [.plain ")"]
  | _ => []

variable {e : Expr}

theorem isTerm_subject (h : e.isPredicate = true) : e.subject.isTerm = true := by
  cases e with
  | compare op lhs rhs => exact (Bool.and_eq_true_iff.mp h).1
  | like subject pattern => exact h
  | inList subject list => exact (Bool.and_eq_true_iff.mp h).1
  | _ => cases h

theorem verb_mem (h : e.isPredicate = true) : e.verb ∈ verbs := by
  cases e with
  | compare op lhs rhs => exact (by cases op <;> decide : " " ++ op.symbol ++ " " ∈ verbs)
  | like subject pattern => exact (by decide : " LIKE " ∈ verbs)
  | inList subject list => exact (by decide : " IN (" ∈ verbs)
  | _ => cases h

theorem eq_of_verb_eq {op op' : Comparison}
    (h : " " ++ op.symbol ++ " " = " " ++ op'.symbol ++ " ") : op = op' := by
  revert h
  cases op <;> cases op' <;> decide

theorem symbol_ne_like (op : Comparison) : " " ++ op.symbol ++ " " ≠ " LIKE " := by
  cases op <;> decide

theorem symbol_ne_in (op : Comparison) : " " ++ op.symbol ++ " " ≠ " IN (" := by
  cases op <;> decide

theorem pieces_predicate (h : e.isPredicate = true) :
    e.pieces dialect = e.subject.pieces dialect ++ .plain e.verb :: e.object dialect := by
  cases e with
  | compare op lhs rhs => rw [pieces, subject, verb, object]
  | like subject pattern => rw [pieces, Expr.subject, verb, object]
  | inList subject list =>
    cases list with
    | nil => simp [isPredicate] at h
    | cons item rest =>
      rw [pieces, Expr.subject, verb, object, exprsPieces_eq_map, List.map_cons, List.append_cons]
      simp
  | _ => cases h

theorem members_of_isPredicate {subject : Expr} {list : List Expr}
    (h : (inList subject list).isPredicate = true) : list ≠ [] ∧ ∀ e ∈ list, e.isTerm = true := by
  have hMembers := (Bool.and_eq_true_iff.mp h).2
  simpa using hMembers

end Expr

theorem predicate_delimits (hDialect : dialect ≠ .sqlite) :
    SelfDelimiting dialect (Expr.pieces dialect) (·.isPredicate = true) afterTerm := by
  intro e f ps qs he hf hps hqs h
  have hTerm := term_delimits hDialect
  have hVerbs : verbs ⊆ afterTerm := by decide
  rw [Expr.pieces_predicate he, Expr.pieces_predicate hf, List.append_assoc, List.append_assoc,
    List.cons_append, List.cons_append] at h
  obtain ⟨hSubject, h⟩ := hTerm (Expr.isTerm_subject he) (Expr.isTerm_subject hf)
    (.word (hVerbs (Expr.verb_mem he))) (.word (hVerbs (Expr.verb_mem hf))) h
  obtain ⟨hVerb, h⟩ := Coincide.word (by decide) (Expr.verb_mem he) (Expr.verb_mem hf) h
  cases e with
  | conj _ | column _ _ | now | shiftedNow _ _ | literal _ | value _ => cases he
  | compare op lhs rhs =>
    cases f with
    | conj _ | column _ _ | now | shiftedNow _ _ | literal _ | value _ => cases hf
    | compare op' lhs' rhs' =>
      obtain ⟨rfl, hRest⟩ := hTerm (Bool.and_eq_true_iff.mp he).2 (Bool.and_eq_true_iff.mp hf).2
        hps hqs h
      cases Expr.eq_of_verb_eq hVerb
      cases hSubject
      exact ⟨rfl, hRest⟩
    | like _ _ => exact absurd hVerb (Expr.symbol_ne_like op)
    | inList _ _ => exact absurd hVerb (Expr.symbol_ne_in op)
  | like subject pattern =>
    cases f with
    | conj _ | column _ _ | now | shiftedNow _ _ | literal _ | value _ => cases hf
    | compare op _ _ => exact absurd hVerb.symm (Expr.symbol_ne_like op)
    | like subject' pattern' =>
      obtain ⟨hPattern, hRest⟩ := Coincide.param h
      cases hPattern
      cases hSubject
      exact ⟨rfl, hRest⟩
    | inList _ _ => exact absurd hVerb (by decide : " LIKE " ≠ " IN (")
  | inList subject list =>
    cases f with
    | conj _ | column _ _ | now | shiftedNow _ _ | literal _ | value _ => cases hf
    | compare op _ _ => exact absurd hVerb.symm (Expr.symbol_ne_in op)
    | like _ _ => exact absurd hVerb (by decide : " IN (" ≠ " LIKE ")
    | inList subject' list' =>
      simp only [Expr.object, List.append_assoc, List.singleton_append] at h
      obtain ⟨rfl, hRest⟩ := terms_delimit hDialect (Expr.members_of_isPredicate he)
        (Expr.members_of_isPredicate hf) (.word (List.mem_singleton_self _))
        (.word (List.mem_singleton_self _)) h
      cases hSubject
      exact ⟨rfl, hRest.plain⟩

namespace Expr

variable {e f : Expr}

theorem operands_of_isCondition (h : e.isCondition = true) :
    e.operands ≠ [] ∧ ∀ o ∈ e.operands, o.isPredicate = true := by
  cases e with
  | conj operands =>
    obtain ⟨hLength, hAll⟩ := Bool.and_eq_true_iff.mp h
    rw [decide_eq_true_iff] at hLength
    exact ⟨List.ne_nil_of_length_pos (Nat.lt_of_lt_of_le Nat.zero_lt_two hLength),
      List.all_eq_true.mp hAll⟩
  | _ => exact ⟨List.cons_ne_nil _ _, fun o ho => List.mem_singleton.mp ho ▸ h⟩

theorem pieces_eq_separated (e : Expr) :
    e.pieces dialect = separated " AND " (e.operands.map (pieces dialect)) := by
  cases e with
  | conj es => rw [pieces, exprsPieces_eq_map, operands]
  | _ => simp [operands, separated]

/-- A conjunction of two or more is never mistaken for the only operand of something. -/
theorem eq_of_operands_eq (he : e.isCondition = true) (hf : f.isCondition = true)
    (h : e.operands = f.operands) : e = f := by
  have hLength {es : List Expr} {g : Expr} (hes : (conj es).isCondition = true)
      (hOne : es = [g]) : False := by
    rw [hOne] at hes
    simp [isCondition] at hes
  cases e with
  | conj es =>
    cases f with
    | conj fs => exact congrArg conj h
    | _ => exact (hLength he h).elim
  | _ =>
    cases f with
    | conj fs => exact (hLength hf h.symm).elim
    | _ => exact List.singleton_inj.mp h

end Expr

theorem condition_delimits (hDialect : dialect ≠ .sqlite) :
    SelfDelimiting dialect (Expr.pieces dialect) (·.isCondition = true) afterCondition := by
  intro e f ps qs he hf hps hqs h
  rw [Expr.pieces_eq_separated e, Expr.pieces_eq_separated f] at h
  have hOperands := (predicate_delimits hDialect).separated afterCondition " AND " (by decide)
    (by decide) (by decide)
  obtain ⟨hSame, hRest⟩ := hOperands (Expr.operands_of_isCondition he)
    (Expr.operands_of_isCondition hf) hps hqs h
  exact ⟨Expr.eq_of_operands_eq he hf hSame, hRest⟩

end RowTree.Sql
