import RowTree.Proofs.Conditions

/-!
# Unambiguous statements

A statement in the dialects of MySQL and PostgreSQL has no parentheses around its predicates, and
yet its bound text and its parameters tell it, as long as conditions are predicates between terms
or conjunctions of these. Each part of a statement delimits itself among the words that may come
after it.
-/

namespace RowTree.Sql

def Filter.Regular (filter : Filter) : Prop := ∀ e, filter.expr? = some e → e.isCondition = true

/-- All columns, or a list that is not empty. -/
def RegularItems (items : Option (List SelectItem)) : Prop :=
  ∀ list, items = some list → list ≠ [] ∧ ∀ item ∈ list, item.expr.isTerm = true

structure Query.Regular (q : Query) : Prop where
  items : RegularItems q.items
  joins : ∀ join ∈ q.joins, join.condition.isCondition = true
  filter : q.filter.Regular
  order : ∀ item ∈ q.order, item.expr.isTerm = true

structure Update.Regular (u : Update) : Prop where
  assigns : u.assignments ≠ []
  terms : ∀ a ∈ u.assignments, a.expr.isTerm = true
  filter : u.filter.Regular

/-- Terms and conditions stand where they should, and no list is empty that is written without
parentheses. -/
def Statement.Regular : Statement → Prop
  | query q => q.Regular
  | insert i => ∀ e ∈ i.values, e.isTerm = true
  | update u => u.Regular
  | delete d => d.filter.Regular

variable {dialect : Dialect} {ps qs : List Piece}

theorem item_delimits (hDialect : dialect ≠ .sqlite) :
    SelfDelimiting dialect (SelectItem.pieces dialect) (·.expr.isTerm = true) [", ", " FROM "] := by
  rintro ⟨e, name⟩ ⟨f, name'⟩ ps qs he hf hps hqs h
  simp only [SelectItem.pieces, List.append_assoc, List.cons_append, List.nil_append] at h
  obtain ⟨hExpr, h⟩ := term_delimits hDialect he hf (.word (by decide)) (.word (by decide)) h
  obtain ⟨hName, hRest⟩ := name_delimits trivial trivial (hps.mono (by decide))
    (hqs.mono (by decide)) h.plain
  cases hExpr
  cases hName
  exact ⟨rfl, hRest⟩

theorem items_delimit (hDialect : dialect ≠ .sqlite) :
    SelfDelimiting dialect (itemsPieces dialect) RegularItems [" FROM "] := by
  have hList := (item_delimits hDialect).separated [" FROM "] ", " (by decide)
    (by decide) (by decide)
  have hFirst {list : List SelectItem} (hlist : RegularItems (some list)) {ps qs : List Piece} :
      ¬ Coincide dialect (.plain "*" :: ps) (commas (list.map (SelectItem.pieces dialect)) ++ qs) := by
    intro h
    obtain ⟨bound, hText⟩ := h.exists (Follows.word (List.mem_singleton_self "*"))
    refine not_onward_separated ?_ (hlist list rfl) qs bound hText
    intro item rest bound hItem
    rw [SelectItem.pieces, List.append_assoc]
    exact not_onward_term hItem hDialect (by decide) bound
  intro items items' ps qs hItems hItems' hps hqs h
  cases items with
  | none =>
    cases items' with
    | none => exact ⟨rfl, h.plain⟩
    | some list => exact absurd h (hFirst hItems')
  | some list =>
    cases items' with
    | none => exact absurd h.symm (hFirst hItems)
    | some list' =>
      obtain ⟨rfl, hRest⟩ := hList (hItems list rfl) (hItems' list' rfl) hps hqs h
      exact ⟨rfl, hRest⟩

def joinWords : List String := [" INNER JOIN ", " LEFT JOIN "]

theorem JoinKind.words_mem (kind : JoinKind) : kind.words ∈ joinWords := by
  cases kind <;> decide

theorem JoinKind.eq_of_words_eq {kind kind' : JoinKind} (h : kind.words = kind'.words) :
    kind = kind' := by
  revert h
  cases kind <;> cases kind' <;> decide

theorem join_delimits (hDialect : dialect ≠ .sqlite) :
    SelfDelimiting dialect (Join.pieces dialect) (·.condition.isCondition = true)
      afterCondition := by
  have hOn (rest : List Piece) : Follows dialect DigitFree (.plain " ON " :: rest) :=
    (Follows.word (List.mem_singleton_self _)).digitFree (by decide)
  rintro ⟨kind, table, number, e⟩ ⟨kind', table', number', f⟩ ps qs he hf hps hqs h
  obtain ⟨hKind, h⟩ := Coincide.word (by decide) kind.words_mem kind'.words_mem h
  obtain ⟨hTable, h⟩ := name_delimits trivial trivial (.word (by decide)) (.word (by decide)) h
  obtain ⟨hNumber, h⟩ := h.plain.number (hOn _) (hOn _)
  obtain ⟨hCondition, hRest⟩ := condition_delimits hDialect he hf hps hqs h.plain
  cases JoinKind.eq_of_words_eq hKind
  cases hTable
  cases hNumber
  cases hCondition
  exact ⟨rfl, hRest⟩

theorem joins_delimit (hDialect : dialect ≠ .sqlite) :
    SelfDelimiting dialect (List.flatMap (Join.pieces dialect))
      (∀ join ∈ ·, join.condition.isCondition = true) afterJoins := by
  have hSubset : joinWords ⊆ afterCondition := by decide
  refine (join_delimits hDialect).flatMap ?_ (by decide) ?_
  · exact fun join _ _ => .word (hSubset join.kind.words_mem)
  · intro join ps bound _
    have hApart : Apart afterJoins join.kind.words := by
      cases join.kind <;> decide
    exact hApart.not_onward_plain bound

theorem filter_delimits (hDialect : dialect ≠ .sqlite) :
    SelfDelimiting dialect (Filter.pieces dialect) Filter.Regular afterFilter := by
  refine SelfDelimiting.orEmpty ⟨none⟩ rfl ?_ ?_
  · rintro ⟨_ | e⟩ ⟨_ | f⟩ ps qs he hf hps hqs h
    · exact absurd rfl he.1
    · exact absurd rfl he.1
    · exact absurd rfl hf.1
    · obtain ⟨rfl, hRest⟩ := condition_delimits hDialect (he.2 e rfl) (hf.2 f rfl)
        (hps.mono (by decide)) (hqs.mono (by decide)) h.plain
      exact ⟨rfl, hRest⟩
  · rintro ⟨_ | e⟩ hNe _ ps bound
    · exact absurd rfl hNe
    · exact (by decide : Apart afterFilter " WHERE ").not_onward_plain bound

def directionWords : List String := [" DESC", " ASC"]

def Direction.word : Direction → String
  | descending => " DESC"
  | ascending => " ASC"

def directionPieces : Option Direction → List Piece
  | some direction => [.plain direction.word]
  | none => []

theorem Direction.word_mem (direction : Direction) : direction.word ∈ directionWords := by
  cases direction <;> decide

theorem Direction.eq_of_word_eq {direction direction' : Direction}
    (h : direction.word = direction'.word) : direction = direction' := by
  revert h
  cases direction <;> cases direction' <;> decide

theorem orderItem_pieces_eq (item : OrderItem) :
    item.pieces dialect = item.expr.pieces dialect ++ directionPieces item.direction := by
  obtain ⟨e, _ | _ | _⟩ := item <;> rfl

def afterOrderItem : List String := ", " :: afterOrder

theorem follows_direction (direction : Option Direction)
    (hps : Follows dialect (Onward afterOrderItem) ps) :
    Follows dialect (Onward afterTerm) (directionPieces direction ++ ps) := by
  have hWords : directionWords ⊆ afterTerm := by decide
  cases direction with
  | none => exact hps.mono (by decide)
  | some direction => exact .word (hWords direction.word_mem)

theorem direction_delimits :
    SelfDelimiting dialect directionPieces (fun _ => True) afterOrderItem := by
  refine SelfDelimiting.orEmpty none rfl ?_ ?_
  · rintro (_ | direction) (_ | direction') ps qs hd hd' hps hqs h
    · exact absurd rfl hd.1
    · exact absurd rfl hd.1
    · exact absurd rfl hd'.1
    · obtain ⟨hWord, hRest⟩ :=
        Coincide.word (by decide) direction.word_mem direction'.word_mem h
      exact ⟨congrArg some (Direction.eq_of_word_eq hWord), hRest⟩
  · rintro (_ | direction) hNe _ ps bound
    · exact absurd rfl hNe
    · have hApart : Apart afterOrderItem direction.word := by
        cases direction <;> decide
      exact hApart.not_onward_plain bound

theorem orderItem_delimits (hDialect : dialect ≠ .sqlite) :
    SelfDelimiting dialect (OrderItem.pieces dialect) (·.expr.isTerm = true) afterOrderItem := by
  rintro ⟨e, direction⟩ ⟨f, direction'⟩ ps qs he hf hps hqs h
  rw [orderItem_pieces_eq, orderItem_pieces_eq, List.append_assoc, List.append_assoc] at h
  obtain ⟨hExpr, h⟩ := term_delimits hDialect he hf (follows_direction _ hps)
    (follows_direction _ hqs) h
  obtain ⟨hDirection, hRest⟩ := direction_delimits trivial trivial hps hqs h
  cases hExpr
  cases hDirection
  exact ⟨rfl, hRest⟩

theorem order_delimits (hDialect : dialect ≠ .sqlite) :
    SelfDelimiting dialect (orderPieces dialect) (∀ item ∈ ·, item.expr.isTerm = true)
      afterOrder := by
  have hItems := (orderItem_delimits hDialect).separated afterOrder ", " (by decide)
    (by decide) (by decide)
  refine SelfDelimiting.orEmpty [] rfl ?_ ?_
  · rintro (_ | ⟨item, items⟩) (_ | ⟨item', items'⟩) ps qs hItem hItem' hps hqs h
    · exact absurd rfl hItem.1
    · exact absurd rfl hItem.1
    · exact absurd rfl hItem'.1
    · exact hItems hItem hItem' hps hqs h.plain
  · rintro (_ | ⟨item, items⟩) hNe _ ps bound
    · exact absurd rfl hNe
    · exact (by decide : Apart afterOrder " ORDER BY ").not_onward_plain bound

def numberPieces (words : String) : Option UInt64 → List Piece
  | some n => [.plain (words ++ n.toNat.repr)]
  | none => []

theorem follows_number {words : String} {next more : List String} (n : Option UInt64)
    (hWords : words ∈ more) (hNext : next ⊆ more) (hps : Follows dialect (Onward next) ps) :
    Follows dialect (Onward more) (numberPieces words n ++ ps) := by
  cases n with
  | none => exact hps.mono hNext
  | some n => exact .begun hWords _

theorem number_delimits {words : String} (next : List String) (hApart : Apart next words)
    (hDigits : next.all (fun w => w.toList.head?.any (!·.isDigit)) = true) :
    SelfDelimiting dialect (numberPieces words) (fun _ => True) next := by
  refine SelfDelimiting.orEmpty none rfl ?_ ?_
  · rintro (_ | m) (_ | n) ps qs hm hn hps hqs h
    · exact absurd rfl hm.1
    · exact absurd rfl hm.1
    · exact absurd rfl hn.1
    · obtain ⟨hNumber, hRest⟩ := Coincide.number h (hps.digitFree hDigits) (hqs.digitFree hDigits)
      exact ⟨congrArg some (UInt64.toNat_inj.mp hNumber), hRest⟩
  · rintro (_ | n) hNe _ ps bound
    · exact absurd rfl hNe
    · rw [numberPieces, List.singleton_append, chars_plain, String.toList_append,
        List.append_assoc]
      exact hApart.not_onward _

theorem limitPieces_eq (limit : Option Limit) :
    limitPieces limit = numberPieces " LIMIT " (limit.map (·.limit)) ++
      numberPieces " OFFSET " (limit.bind (·.offset)) := by
  obtain _ | ⟨_, _ | _⟩ := limit <;> rfl

theorem limit_delimits : SelfDelimiting dialect limitPieces (fun _ => True) [] := by
  intro limit limit' ps qs _ _ hps hqs h
  rw [limitPieces_eq, limitPieces_eq, List.append_assoc, List.append_assoc] at h
  obtain ⟨hLimit, h⟩ := number_delimits [" OFFSET "] (by decide) (by decide) trivial
    trivial (follows_number _ (by decide) (by decide) hps)
    (follows_number _ (by decide) (by decide) hqs) h
  obtain ⟨hOffset, hRest⟩ := number_delimits [] (by decide) (by decide) trivial trivial hps hqs h
  refine ⟨?_, hRest⟩
  obtain _ | ⟨limit, offset⟩ := limit <;> obtain _ | ⟨limit', offset'⟩ := limit'
  · rfl
  · cases hLimit
  · cases hLimit
  · cases hLimit
    cases hOffset
    rfl

theorem columns_delimit :
    SelfDelimiting dialect
      (fun columns : List String => commas (columns.map fun name => [Piece.name name]))
      (fun _ => True) [") VALUES ("] := by
  have hName : SelfDelimiting dialect (fun name => [Piece.name name]) (fun _ => True) afterName :=
    name_delimits
  have hColumns := hName.separated [") VALUES ("] ", " (by decide) (by decide) (by decide)
  refine SelfDelimiting.orEmpty ([] : List String) rfl ?_ ?_
  · exact fun _ _ _ _ hx hy => hColumns ⟨hx.1, fun _ _ => trivial⟩ ⟨hy.1, fun _ _ => trivial⟩
  · intro columns hNe _ ps bound
    have hFirst (name : String) (rest : List Piece) (bound : Nat) (_ : True) :
        ¬ Onward [") VALUES ("] (chars dialect bound ([.name name] ++ rest)) := by
      intro hOnward
      have hHead := hOnward.head (p := (· == ')')) (by decide) dialect.nameQuote
        (by rw [List.singleton_append, chars_name]; rfl)
      revert hHead
      cases dialect <;> decide
    exact not_onward_separated hFirst ⟨hNe, fun _ _ => trivial⟩ ps bound

theorem values_delimit (hDialect : dialect ≠ .sqlite) :
    SelfDelimiting dialect (fun es : List Expr => commas (es.map (Expr.pieces dialect)))
      (fun es => ∀ e ∈ es, e.isTerm = true) [")"] := by
  refine SelfDelimiting.orEmpty [] rfl (terms_delimit hDialect) ?_
  exact fun es hNe hes ps bound => not_onward_separated
    (fun _ _ bound he => not_onward_term he hDialect (by decide) bound) ⟨hNe, hes⟩ ps bound

def afterAssignment : List String := ", " :: afterJoins

theorem assignment_delimits (hDialect : dialect ≠ .sqlite) :
    SelfDelimiting dialect (Assignment.pieces dialect) (·.expr.isTerm = true) afterAssignment := by
  rintro ⟨column, e⟩ ⟨column', f⟩ ps qs he hf hps hqs h
  obtain ⟨hColumn, h⟩ := name_delimits trivial trivial (.word (by decide)) (.word (by decide)) h
  obtain ⟨hExpr, hRest⟩ := term_delimits hDialect he hf (hps.mono (by decide))
    (hqs.mono (by decide)) h.plain
  cases hColumn
  cases hExpr
  exact ⟨rfl, hRest⟩

theorem assignments_delimit (hDialect : dialect ≠ .sqlite) :
    SelfDelimiting dialect (fun list => commas (list.map (Assignment.pieces dialect)))
      (fun list => list ≠ [] ∧ ∀ a ∈ list, a.expr.isTerm = true) afterJoins :=
  (assignment_delimits hDialect).separated _ ", " (by decide) (by decide) (by decide)

theorem follows_limit (limit : Option Limit) :
    Follows dialect (Onward afterOrder) (limitPieces limit) := by
  rw [limitPieces_eq]
  cases limit with
  | none => exact .nil
  | some limit => exact .begun (by decide) _

theorem follows_order (order : List OrderItem) (hps : Follows dialect (Onward afterOrder) ps) :
    Follows dialect (Onward afterFilter) (orderPieces dialect order ++ ps) := by
  cases order with
  | nil => exact hps.mono (by decide)
  | cons item rest => exact .word (by decide)

theorem follows_filter (filter : Filter) (hps : Follows dialect (Onward afterFilter) ps) :
    Follows dialect (Onward afterJoins) (filter.pieces dialect ++ ps) := by
  obtain ⟨_ | e⟩ := filter
  · exact hps.mono (by decide)
  · exact .word (by decide)

theorem coincide_query (hDialect : dialect ≠ .sqlite) {q q' : Query} (hq : q.Regular)
    (hq' : q'.Regular) (h : Coincide dialect (q.pieces dialect) (q'.pieces dialect)) : q = q' := by
  have hOrder (q : Query) : Follows dialect (Onward afterFilter)
      (orderPieces dialect q.order ++ limitPieces q.limit) := follows_order _ (follows_limit _)
  simp only [Query.pieces, List.cons_append, List.append_assoc, List.nil_append] at h
  obtain ⟨hItems, h⟩ := items_delimit hDialect hq.items hq'.items
    (.word (List.mem_singleton_self _)) (.word (List.mem_singleton_self _)) h.plain
  obtain ⟨hTable, h⟩ := name_delimits trivial trivial (.word (by decide)) (.word (by decide)) h.plain
  obtain ⟨hJoins, h⟩ := joins_delimit hDialect hq.joins hq'.joins (follows_filter _ (hOrder q))
    (follows_filter _ (hOrder q')) h.plain.plain
  obtain ⟨hFilter, h⟩ := filter_delimits hDialect hq.filter hq'.filter (hOrder q) (hOrder q') h
  obtain ⟨hOrder, h⟩ := order_delimits hDialect hq.order hq'.order (follows_limit _)
    (follows_limit _) h
  rw [← List.append_nil (limitPieces q.limit), ← List.append_nil (limitPieces q'.limit)] at h
  obtain ⟨hLimit, -⟩ := limit_delimits trivial trivial .nil .nil h
  cases q
  cases q'
  cases hItems
  cases hTable
  cases hJoins
  cases hFilter
  cases hOrder
  cases hLimit
  rfl

theorem coincide_insert (hDialect : dialect ≠ .sqlite) {i i' : Insert}
    (hi : ∀ e ∈ i.values, e.isTerm = true) (hi' : ∀ e ∈ i'.values, e.isTerm = true)
    (h : Coincide dialect (i.pieces dialect) (i'.pieces dialect)) : i = i' := by
  simp only [Insert.pieces, exprsPieces_eq_map, List.cons_append, List.append_assoc,
    List.nil_append] at h
  obtain ⟨hTable, h⟩ := name_delimits trivial trivial (.word (by decide)) (.word (by decide)) h.plain
  obtain ⟨hColumns, h⟩ := columns_delimit trivial trivial (.word (List.mem_singleton_self _))
    (.word (List.mem_singleton_self _)) h.plain
  obtain ⟨hValues, -⟩ := values_delimit hDialect hi hi' (.word (List.mem_singleton_self _))
    (.word (List.mem_singleton_self _)) h.plain
  cases i
  cases i'
  cases hTable
  cases hColumns
  cases hValues
  rfl

theorem coincide_update (hDialect : dialect ≠ .sqlite) {u u' : Update} (hu : u.Regular)
    (hu' : u'.Regular) (h : Coincide dialect (u.pieces dialect) (u'.pieces dialect)) : u = u' := by
  have hFilter (u : Update) : Follows dialect (Onward afterJoins) (u.filter.pieces dialect ++ []) :=
    follows_filter _ .nil
  simp only [Update.pieces, List.cons_append, List.nil_append] at h
  obtain ⟨hTable, h⟩ := name_delimits trivial trivial (.word (by decide)) (.word (by decide)) h.plain
  rw [← List.append_nil (u.filter.pieces dialect), ← List.append_nil (u'.filter.pieces dialect)] at h
  obtain ⟨hAssignments, h⟩ := assignments_delimit hDialect ⟨hu.assigns, hu.terms⟩
    ⟨hu'.assigns, hu'.terms⟩ (hFilter u) (hFilter u') h.plain
  obtain ⟨hFilters, -⟩ := filter_delimits hDialect hu.filter hu'.filter .nil .nil h
  cases u
  cases u'
  cases hTable
  cases hAssignments
  cases hFilters
  rfl

theorem coincide_delete (hDialect : dialect ≠ .sqlite) {d d' : Delete} (hd : d.filter.Regular)
    (hd' : d'.filter.Regular) (h : Coincide dialect (d.pieces dialect) (d'.pieces dialect)) :
    d = d' := by
  have hFilter (d : Delete) : Follows dialect (Onward afterName) (d.filter.pieces dialect ++ []) :=
    (follows_filter _ .nil).mono (by decide)
  simp only [Delete.pieces, List.cons_append, List.nil_append] at h
  rw [← List.append_nil (d.filter.pieces dialect), ← List.append_nil (d'.filter.pieces dialect)] at h
  obtain ⟨hTable, h⟩ := name_delimits trivial trivial (hFilter d) (hFilter d') h.plain
  obtain ⟨hFilters, -⟩ := filter_delimits hDialect hd hd' .nil .nil h
  cases d
  cases d'
  cases hTable
  cases hFilters
  rfl

namespace Statement

def keyword : Statement → String
  | query _ => "SELECT "
  | insert _ => "INSERT INTO "
  | update _ => "UPDATE "
  | delete _ => "DELETE FROM "

def keywords : List String := ["SELECT ", "INSERT INTO ", "UPDATE ", "DELETE FROM "]

theorem keyword_mem (s : Statement) : s.keyword ∈ keywords := by
  cases s <;> simp [keyword, keywords]

theorem pieces_keyword (s : Statement) (dialect : Dialect) :
    ∃ rest, s.pieces dialect = .plain s.keyword :: rest := by
  cases s <;> exact ⟨_, rfl⟩

/-- A regular statement is told by its bound text and its parameters. -/
theorem eq_of_coincide (hDialect : dialect ≠ .sqlite) {s s' : Statement} (hs : s.Regular)
    (hs' : s'.Regular) (h : Coincide dialect (s.pieces dialect) (s'.pieces dialect)) : s = s' := by
  have hKeyword : s.keyword = s'.keyword := by
    obtain ⟨rest, hRest⟩ := s.pieces_keyword dialect
    obtain ⟨rest', hRest'⟩ := s'.pieces_keyword dialect
    rw [hRest, hRest'] at h
    exact (Coincide.word (by decide) s.keyword_mem s'.keyword_mem h).1
  cases s with
  | query q =>
    cases s' with
    | query q' => exact congrArg query (coincide_query hDialect hs hs' h)
    | _ => simp [keyword] at hKeyword
  | insert i =>
    cases s' with
    | insert i' => exact congrArg insert (coincide_insert hDialect hs hs' h)
    | _ => simp [keyword] at hKeyword
  | update u =>
    cases s' with
    | update u' => exact congrArg update (coincide_update hDialect hs hs' h)
    | _ => simp [keyword] at hKeyword
  | delete d =>
    cases s' with
    | delete d' => exact congrArg delete (coincide_delete hDialect hs hs' h)
    | _ => simp [keyword] at hKeyword

end Statement

end RowTree.Sql
