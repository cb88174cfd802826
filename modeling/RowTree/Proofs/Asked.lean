import RowTree.Proofs.Subtrees

/-!
# The queries of a read

A read asks for the rows of its model once, and then for the rows of each child model once and
for all parents together, unless no parent has a value to find children by. Nothing else is
executed, and a reply without records ends the read.
-/

namespace RowTree

open Schema Sql

/-- The value has a key, which is none of those seen and of no value before its place. -/
def isFirst (seen : List Key) (values : List Value) (entry : Value × Nat) : Bool :=
  entry.1.key?.any fun key =>
    !seen.contains key && (values.take entry.2).all fun v => v.key? != some key

/-- The values whose key no value before them has. -/
def firstOfKeys (values : List Value) : List Value :=
  (values.zipIdx.filter (isFirst [] values)).map (·.1)

theorem isFirst_iff {seen : List Key} {values : List Value} {v : Value} {i : Nat} :
    isFirst seen values (v, i) = true ↔ ∃ key, v.key? = some key ∧ key ∉ seen ∧
      ∀ w ∈ values.take i, w.key? ≠ some key := by
  simp [isFirst, Option.any_eq_true]

theorem isFirst_succ {seen : List Key} {v w : Value} {rest : List Value} {i : Nat} :
    isFirst seen (v :: rest) (w, i + 1) = true ↔
      isFirst seen rest (w, i) = true ∧ w.key? ≠ v.key? := by
  rw [isFirst_iff, isFirst_iff, List.take_succ_cons]
  constructor
  · rintro ⟨key, hKey, hFresh, hBefore⟩
    obtain ⟨hNe, hBefore⟩ := List.forall_mem_cons.mp hBefore
    exact ⟨⟨key, hKey, hFresh, hBefore⟩, fun hSame => hNe (hSame ▸ hKey)⟩
  · rintro ⟨⟨key, hKey, hFresh, hBefore⟩, hNe⟩
    exact ⟨key, hKey, hFresh,
      List.forall_mem_cons.mpr ⟨fun hSame => hNe (hKey.trans hSame.symm), hBefore⟩⟩

theorem isFirst_seen {seen : List Key} {key : Key} {values : List Value} {w : Value} {i : Nat} :
    isFirst (key :: seen) values (w, i) = true ↔
      isFirst seen values (w, i) = true ∧ w.key? ≠ some key := by
  rw [isFirst_iff, isFirst_iff]
  constructor
  · rintro ⟨other, hw, hFresh, hBefore⟩
    rw [List.mem_cons, not_or] at hFresh
    refine ⟨⟨other, hw, hFresh.2, hBefore⟩, fun hSame => ?_⟩
    exact hFresh.1 (Option.some.inj (hw.symm.trans hSame))
  · rintro ⟨⟨other, hw, hFresh, hBefore⟩, hNe⟩
    refine ⟨other, hw, ?_, hBefore⟩
    rw [List.mem_cons, not_or]
    exact ⟨fun hSame => hNe (hSame ▸ hw), hFresh⟩

theorem distinctValues_eq_filter (seen : List Key) (values : List Value) :
    distinctValues seen values = (values.zipIdx.filter (isFirst seen values)).map (·.1) := by
  induction values generalizing seen with
  | nil => rfl
  | cons v rest ih =>
    have hLater {known : List Key} (h : ∀ w i, isFirst seen rest (w, i) = true ∧ w.key? ≠ v.key? ↔
          isFirst known rest (w, i) = true) :
        ((rest.zipIdx.filter (isFirst seen (v :: rest) ∘ Prod.map id (· + 1))).map
          (Prod.map id (· + 1))).map (·.1) = distinctValues known rest := by
      rw [ih known, List.map_map]
      refine congrArg _ (List.filter_congr fun entry _ => Bool.eq_iff_iff.mpr ?_)
      exact isFirst_succ.trans (h entry.1 entry.2)
    -- For the later values the first one only matters by its key, if that was not seen before.
    rw [List.zipIdx_cons', List.filter_cons, List.filter_map, distinctValues]
    cases hKey : v.key? with
    | none =>
      have hNot : isFirst seen (v :: rest) (v, 0) = false := by simp [isFirst, hKey]
      rw [hNot, if_neg Bool.false_ne_true]
      refine (hLater fun w i => and_iff_left_of_imp fun hw => ?_).symm
      obtain ⟨key, hw, _⟩ := isFirst_iff.mp hw
      rw [hKey, hw]
      exact Option.some_ne_none key
    | some key =>
      by_cases hSeen : key ∈ seen
      · have hNot : isFirst seen (v :: rest) (v, 0) = false := by simp [isFirst, hKey, hSeen]
        rw [hNot, if_neg Bool.false_ne_true]
        dsimp only
        rw [if_pos (List.contains_iff_mem.mpr hSeen)]
        refine (hLater fun w i => and_iff_left_of_imp fun hw => ?_).symm
        obtain ⟨other, hw, hFresh, _⟩ := isFirst_iff.mp hw
        rw [hKey, hw]
        rintro ⟨rfl⟩
        exact hFresh hSeen
      · have hFirst : isFirst seen (v :: rest) (v, 0) = true := by simp [isFirst, hKey, hSeen]
        rw [hFirst, if_pos rfl, List.map_cons]
        dsimp only
        rw [if_neg (mt List.contains_iff_mem.mp hSeen)]
        refine congrArg _ (hLater fun w i => ?_).symm
        rw [hKey]
        exact isFirst_seen.symm

theorem distinctValues_apart (values : List Value) (seen : List Key) :
    (∀ v ∈ distinctValues seen values, ∃ key, v.key? = some key ∧ key ∉ seen) ∧
      ((distinctValues seen values).map Value.key?).Nodup := by
  induction values generalizing seen with
  | nil => exact ⟨List.forall_mem_nil _, List.nodup_nil⟩
  | cons v rest ih =>
    rw [distinctValues]
    split
    · exact ih seen
    · rename_i key hKey
      split
      · exact ih seen
      · rename_i hFresh
        rw [List.contains_iff_mem] at hFresh
        obtain ⟨hKeys, hNodup⟩ := ih (key :: seen)
        constructor
        · refine List.forall_mem_cons.mpr ⟨⟨key, hKey, hFresh⟩, fun w hw => ?_⟩
          obtain ⟨other, hOther, hNew⟩ := hKeys w hw
          exact ⟨other, hOther, fun hSeen => hNew (List.mem_cons_of_mem _ hSeen)⟩
        · rw [List.map_cons, List.nodup_cons]
          refine ⟨fun hMem => ?_, hNodup⟩
          obtain ⟨w, hw, hSame⟩ := List.mem_map.mp hMem
          obtain ⟨other, hOther, hNew⟩ := hKeys w hw
          rw [hKey, hOther, Option.some.injEq] at hSame
          exact hNew (hSame ▸ List.mem_cons_self)

/-- A query that was answered with records. It is for the model at the end of a path of child
names. -/
structure Asked where
  path : List String
  model : Model
  filter : Filter
  page : Option UInt64
  records : List Record

/-- The query asks for the rows of a child model that belong to any of its parents. -/
structure Sql.Query.IsBatch (q : Query) (child : Entity) (parents : List Row) (link : ParentLink)
    (column : Expr) (values : List Value) : Prop where
  own : q = child.query ⟨some (.inList column (values.map .value))⟩ none
  operands : q.filter.operands = Filter.operands ⟨child.filter⟩ ++
    [.inList column (values.map .value)]
  offset : ∀ limit, q.limit = some limit → limit.offset = none
  nonempty : values ≠ []
  no_null : ∀ v ∈ values, v.isNull = false
  distinct : (values.map Value.key?).Nodup
  order : values = firstOfKeys (parents.map (·.get link.parentField))
  complete : ∀ parent ∈ parents, (parent.get link.parentField).isNull = false →
    ∃ v ∈ values, v.key? = (parent.get link.parentField).key?

namespace Asked

def query (asked : Asked) : Query := asked.model.entity.query asked.filter asked.page

def statement (asked : Asked) : Statement := .query asked.query

def rows (asked : Asked) : List Row := asked.records.map asked.model.entity.toRow

/-- Some row has a value by which rows of the child model are found. -/
def HasLink (asked : Asked) (child : Model) : Prop :=
  ∃ link, child.entity.parentLink = some link ∧
    ∃ row ∈ asked.rows, (row.get link.parentField).isNull = false

/-- It asks for the rows of a child model under the rows of the other. -/
structure IsFor (asked parent : Asked) (child : Model) : Prop where
  link : parent.HasLink child
  path : asked.path = parent.path ++ [child.name]
  model : asked.model = child
  batch : ∃ link column values, linkColumn child.entity = .ok (link, column) ∧
    asked.query.IsBatch child.entity parent.rows link column values

end Asked

/-- Beginning with a log, the driver answered the queries one after the other with their records,
which led to a later log. -/
inductive Answers (driver : Driver) : Log → List Asked → Log → Prop
  | nil {log : Log} : Answers driver log [] log
  | cons {log later : Log} {first : Asked} {rest : List Asked}
      (reply : driver log first.statement = .ok (.records first.records))
      (h : Answers driver (log ++ [first.statement]) rest later) :
      Answers driver log (first :: rest) later

namespace Answers

variable {driver : Driver} {log between later : Log} {asked more : List Asked}

theorem append (h : Answers driver log asked between) (hMore : Answers driver between more later) :
    Answers driver log (asked ++ more) later := by
  induction h with
  | nil => exact hMore
  | cons reply _ ih => exact .cons reply (ih hMore)

theorem later_eq (h : Answers driver log asked later) :
    later = log ++ asked.map Asked.statement := by
  induction h with
  | nil => rw [List.map_nil, List.append_nil]
  | cons _ _ ih => rw [ih, List.map_cons, List.append_assoc, List.singleton_append]

end Answers

theorem get_of_mem_linkValues {parents : List Row} {field : String} {v : Value}
    (h : v ∈ linkValues parents field) : ∃ parent ∈ parents, parent.get field = v := by
  rw [linkValues, distinctValues_eq_filter] at h
  obtain ⟨entry, hEntry, rfl⟩ := List.mem_map.mp h
  exact List.mem_map.mp (List.fst_mem_of_mem_zipIdx (List.mem_filter.mp hEntry).1)

theorem isNull_of_mem_linkValues {parents : List Row} {field : String} {v : Value}
    (h : v ∈ linkValues parents field) : v.isNull = false := by
  obtain ⟨key, hKey, _⟩ := (distinctValues_apart _ _).1 v h
  rw [Value.isNull_eq_isNone, hKey]
  rfl

theorem exists_linkValue {parents : List Row} {parent : Row} (hParent : parent ∈ parents)
    {field : String} (hNull : (parent.get field).isNull = false) :
    ∃ v ∈ linkValues parents field, v.key? = (parent.get field).key? := by
  rw [Value.isNull_eq_isNone, Option.isNone_eq_false_iff, Option.isSome_iff_exists] at hNull
  obtain ⟨key, hKey⟩ := hNull
  have hMem : parent.get field ∈ parents.map (·.get field) := List.mem_map_of_mem hParent
  rw [hKey]
  exact exists_distinctValues hMem hKey List.not_mem_nil

theorem linkValues_ne_nil_iff {parents : List Row} {field : String} :
    linkValues parents field ≠ [] ↔ ∃ parent ∈ parents, (parent.get field).isNull = false := by
  constructor
  · intro hSome
    obtain ⟨v, hv⟩ := List.exists_mem_of_ne_nil _ hSome
    obtain ⟨parent, hParent, rfl⟩ := get_of_mem_linkValues hv
    exact ⟨parent, hParent, isNull_of_mem_linkValues hv⟩
  · rintro ⟨parent, hParent, hNull⟩
    obtain ⟨v, hv, _⟩ := exists_linkValue hParent hNull
    exact List.ne_nil_of_mem hv

theorem linkValues_congr {parents others : List Row} {field : String}
    (h : parents.map (·.get field) = others.map (·.get field)) :
    linkValues parents field = linkValues others field := congrArg (distinctValues []) h

/-- Rows that are put under others change none of the values of these. -/
theorem map_get_attach (child : String) (link : ParentLink) (parents rows : List Row)
    (field : String) :
    (attach child link parents rows).map (·.get field) = parents.map (·.get field) := by
  rw [attach_eq_map, List.map_map]
  rfl

theorem isBatch_query (child : Entity) (link : ParentLink) (column : Expr) {parents : List Row}
    (h : linkValues parents link.parentField ≠ []) :
    (child.query ⟨some (.inList column ((linkValues parents link.parentField).map .value))⟩
      none).IsBatch child parents link column (linkValues parents link.parentField) where
  own := rfl
  operands := Filter.operands_add _ _
  offset limit hLimit := by
    obtain ⟨_, _, rfl⟩ := Option.map_eq_some_iff.mp hLimit
    rfl
  nonempty := h
  no_null _ := isNull_of_mem_linkValues
  distinct := (distinctValues_apart _ _).2
  order := distinctValues_eq_filter _ _
  complete _ hParent := exists_linkValue hParent

mutual

/-- The queries for a model and what is under it, of which the first is `own`. -/
def LevelAsked (own : Asked) (asked : List Asked) : Model → Prop
  | .node entity children =>
    ∃ under, asked = own :: under ∧ own.model = .node entity children ∧
      ChildrenAsked own under children

/-- The queries for child models, one after the other, and what is under these. -/
def ChildrenAsked (parent : Asked) (asked : List Asked) : List Model → Prop
  | [] => asked = []
  | child :: rest =>
    ∃ here later, asked = here ++ later ∧ ChildrenAsked parent later rest ∧
      (¬parent.HasLink child ∧ here = [] ∨
        ∃ own, own.IsFor parent child ∧ LevelAsked own here child)

end

theorem childrenAsked_of_no_rows {parent : Asked} (h : parent.rows = []) (children : List Model) :
    ChildrenAsked parent [] children := by
  induction children with
  | nil => rfl
  | cons child rest ih =>
    refine ⟨[], [], rfl, ih, .inl ⟨?_, rfl⟩⟩
    rintro ⟨_, _, row, hRow, _⟩
    rw [h] at hRow
    cases hRow

theorem toRecords_eq_ok {reply : Reply} {records : List Record}
    (h : reply.toRecords = .ok records) : reply = .records records := by
  cases reply with
  | records _ =>
    cases h
    rfl
  | _ => cases h

section

variable {driver : Driver}

theorem run_bind_eq_ok {α β : Type} {session : Session α} {next : α → Session β} {log later : Log}
    {w : β} (h : (session >>= next).run log = (.ok w, later)) :
    ∃ v between, session.run log = (.ok v, between) ∧ (next v).run between = (.ok w, later) := by
  rw [Session.run_bind] at h
  rcases hRun : session.run log with ⟨_ | v, between⟩
  · rw [hRun] at h
    cases h
  · rw [hRun] at h
    exact ⟨v, between, rfl, h⟩

mutual

theorem readLevel_asks (model : Model) (hModel : model.WellFormed) (path : List String)
    {filter : Filter} {page : Option UInt64} {log later : Log} {rows : List Row}
    (h : (readLevel driver filter page model).run log = (.ok rows, later)) :
    ∃ records asked, Answers driver log asked later ∧
      LevelAsked ⟨path, model, filter, page, records⟩ asked model := by
  cases model with
  | node entity children =>
    rw [readLevel] at h
    obtain ⟨reply, _, hReply, h⟩ := run_bind_eq_ok h
    obtain ⟨records, _, hRecords, h⟩ := run_bind_eq_ok h
    obtain ⟨hAnswer, rfl⟩ := Prod.mk.inj hReply
    obtain ⟨hKind, rfl⟩ := Prod.mk.inj hRecords
    rw [toRecords_eq_ok hKind] at hAnswer
    let own : Asked := ⟨path, .node entity children, filter, page, records⟩
    have hBelow : ∃ under, Answers driver (log ++ [own.statement]) under later ∧
        ChildrenAsked own under children := by
      dsimp only at h
      split at h
      · rename_i hEmpty
        cases h
        have hRows : own.rows = [] := List.isEmpty_iff.mp hEmpty
        exact ⟨[], .nil, childrenAsked_of_no_rows hRows children⟩
      · exact readChildren_asks children hModel.siblings (fun _ => rfl) h
    obtain ⟨under, hAnswers, hUnder⟩ := hBelow
    exact ⟨records, own :: under, .cons hAnswer hAnswers, under, rfl, rfl, hUnder⟩

theorem readChildren_asks (children : List Model) (hChildren : Siblings children) {parent : Asked}
    {current rows : List Row} {log later : Log}
    (hCurrent : ∀ field, current.map (·.get field) = parent.rows.map (·.get field))
    (h : (readChildren driver current children).run log = (.ok rows, later)) :
    ∃ asked, Answers driver log asked later ∧ ChildrenAsked parent asked children := by
  cases children with
  | nil =>
    cases h
    exact ⟨[], .nil, rfl⟩
  | cons child rest =>
    obtain ⟨link, field, column, hLink, hField, hColumn⟩ :=
      (hChildren.linked child List.mem_cons_self).linkColumn
    rw [readChildren, hColumn] at h
    obtain ⟨_, _, hPair, h⟩ := run_bind_eq_ok h
    cases hPair
    dsimp only at h
    have hRest {read : List Row} {between : Log}
        (h : (readChildren driver (attach child.name link current read) rest).run between =
          (.ok rows, later)) :
        ∃ asked, Answers driver between asked later ∧ ChildrenAsked parent asked rest := by
      refine readChildren_asks rest hChildren.tail (fun field => ?_) h
      exact (map_get_attach _ _ _ _ _).trans (hCurrent field)
    rw [linkValues_congr (hCurrent link.parentField)] at h
    by_cases hNone : linkValues parent.rows link.parentField = []
    · rw [if_pos (List.isEmpty_iff.mpr hNone)] at h
      obtain ⟨_, _, hRead, h⟩ := run_bind_eq_ok h
      cases hRead
      obtain ⟨asked, hAnswers, hAsked⟩ := hRest h
      refine ⟨asked, hAnswers, [], asked, rfl, hAsked, .inl ⟨?_, rfl⟩⟩
      rintro ⟨other, hOther, hSome⟩
      rw [hLink, Option.some.injEq] at hOther
      subst hOther
      exact linkValues_ne_nil_iff.mpr hSome hNone
    · rw [if_neg (List.isEmpty_iff.not.mpr hNone)] at h
      obtain ⟨read, between, hRead, h⟩ := run_bind_eq_ok h
      obtain ⟨records, here, hHere, hLevel⟩ :=
        readLevel_asks child hChildren.first (parent.path ++ [child.name]) hRead
      obtain ⟨asked, hAnswers, hAsked⟩ := hRest h
      refine ⟨here ++ asked, hHere.append hAnswers, here, asked, rfl, hAsked,
        .inr ⟨_, ?_, hLevel⟩⟩
      exact ⟨⟨link, hLink, linkValues_ne_nil_iff.mp hNone⟩, rfl, rfl, link, column, _, hColumn,
        isBatch_query child.entity link column hNone⟩

end

end

/-- Every query is one of the first ones or is for the children of what another was answered
with, and where rows have children to look for these are asked for. -/
structure Planned (first : Asked → Prop) (asked : List Asked) : Prop where
  paths : (asked.map (·.path)).Nodup
  wellFormed : ∀ a ∈ asked, a.model.WellFormed
  asker : ∀ a ∈ asked, first a ∨
    ∃ parent ∈ asked, ∃ child ∈ parent.model.children, a.IsFor parent child
  asks : ∀ parent ∈ asked, ∀ child ∈ parent.model.children, parent.HasLink child →
    ∃ a ∈ asked, a.IsFor parent child

namespace Planned

variable {first second : Asked → Prop} {asked more : List Asked} {own : Asked}

theorem nil (first : Asked → Prop) : Planned first [] :=
  ⟨List.nodup_nil, List.forall_mem_nil _, List.forall_mem_nil _, List.forall_mem_nil _⟩

theorem mono (h : Planned first asked) (hFirst : ∀ a, first a → second a) :
    Planned second asked :=
  { h with asker := fun a ha => (h.asker a ha).imp_left (hFirst a) }

theorem append (h : Planned first asked) (hMore : Planned first more)
    (hApart : ∀ a ∈ asked, ∀ b ∈ more, a.path ≠ b.path) : Planned first (asked ++ more) where
  paths := by
    rw [List.map_append]
    refine h.paths.append hMore.paths fun path hPath hPath' => ?_
    obtain ⟨a, ha, rfl⟩ := List.mem_map.mp hPath
    obtain ⟨b, hb, hSame⟩ := List.mem_map.mp hPath'
    exact hApart a ha b hb hSame.symm
  wellFormed := List.forall_mem_append.mpr ⟨h.wellFormed, hMore.wellFormed⟩
  asker := by
    refine List.forall_mem_append.mpr ⟨fun a ha => ?_, fun a ha => ?_⟩
    · refine (h.asker a ha).imp_right ?_
      rintro ⟨parent, hParent, hChild⟩
      exact ⟨parent, List.mem_append_left _ hParent, hChild⟩
    · refine (hMore.asker a ha).imp_right ?_
      rintro ⟨parent, hParent, hChild⟩
      exact ⟨parent, List.mem_append_right _ hParent, hChild⟩
  asks := by
    refine List.forall_mem_append.mpr ⟨fun parent hParent child hChild hLink => ?_,
      fun parent hParent child hChild hLink => ?_⟩
    · obtain ⟨a, ha, hFor⟩ := h.asks parent hParent child hChild hLink
      exact ⟨a, List.mem_append_left _ ha, hFor⟩
    · obtain ⟨a, ha, hFor⟩ := hMore.asks parent hParent child hChild hLink
      exact ⟨a, List.mem_append_right _ ha, hFor⟩

theorem cons (hOwn : own.model.WellFormed)
    (h : Planned (fun a => ∃ child ∈ own.model.children, a.IsFor own child) asked)
    (hFresh : ∀ a ∈ asked, a.path ≠ own.path)
    (hAsks : ∀ child ∈ own.model.children, own.HasLink child → ∃ a ∈ asked, a.IsFor own child) :
    Planned (· = own) (own :: asked) where
  paths := by
    rw [List.map_cons, List.nodup_cons]
    refine ⟨fun hMem => ?_, h.paths⟩
    obtain ⟨a, ha, hSame⟩ := List.mem_map.mp hMem
    exact hFresh a ha hSame
  wellFormed := List.forall_mem_cons.mpr ⟨hOwn, h.wellFormed⟩
  asker := by
    refine List.forall_mem_cons.mpr ⟨.inl rfl, fun a ha => .inr ?_⟩
    rcases h.asker a ha with hChild | ⟨parent, hParent, hChild⟩
    · exact ⟨own, List.mem_cons_self, hChild⟩
    · exact ⟨parent, List.mem_cons_of_mem _ hParent, hChild⟩
  asks := by
    refine List.forall_mem_cons.mpr ⟨fun child hChild hLink => ?_,
      fun parent hParent child hChild hLink => ?_⟩
    · obtain ⟨a, ha, hFor⟩ := hAsks child hChild hLink
      exact ⟨a, List.mem_cons_of_mem _ ha, hFor⟩
    · obtain ⟨a, ha, hFor⟩ := h.asks parent hParent child hChild hLink
      exact ⟨a, List.mem_cons_of_mem _ ha, hFor⟩

/-- A child model is asked for if and only if its parents have something to find it by. -/
theorem exists_iff_hasLink (h : Planned (· = own) asked) (hOwn : own.path = [])
    {parent : Asked} (hParent : parent ∈ asked) {child : Model}
    (hChild : child ∈ parent.model.children) :
    (∃ a ∈ asked, a.path = parent.path ++ [child.name]) ↔ parent.HasLink child := by
  constructor
  · rintro ⟨a, ha, hPath⟩
    rcases h.asker a ha with rfl | ⟨other, hOther, c, hc, hFor⟩
    · simp [hOwn] at hPath
    · obtain ⟨hSamePath, hName⟩ := List.append_inj' (hFor.path.symm.trans hPath) rfl
      have hSame : other = parent := List.inj_on_of_nodup_map h.paths hOther hParent hSamePath
      subst hSame
      have hNames := (h.wellFormed other hOther).names
      rw [List.inj_on_of_nodup_map hNames hc hChild (List.head_eq_of_cons_eq hName)] at hFor
      exact hFor.link
  · intro hLink
    obtain ⟨a, ha, hFor⟩ := h.asks parent hParent child hChild hLink
    exact ⟨a, ha, hFor.path⟩

end Planned

theorem name_eq_of_below {path below : List String} {name other : String}
    (h : path ++ [name] <+: below) (hOther : path ++ [other] <+: below) : name = other := by
  have hPrefix : path ++ [name] <+: path ++ [other] :=
    List.prefix_of_prefix_length_le h hOther (by simp)
  exact List.head_eq_of_cons_eq (List.append_cancel_left (hPrefix.eq_of_length (by simp)))

mutual

theorem levelAsked_planned (model : Model) (hModel : model.WellFormed) {own : Asked}
    {asked : List Asked} (h : LevelAsked own asked model) :
    Planned (· = own) asked ∧ own ∈ asked ∧ ∀ a ∈ asked, own.path <+: a.path := by
  cases model with
  | node entity children =>
    obtain ⟨under, rfl, hOwn, hUnder⟩ := h
    obtain ⟨hPlanned, hWithin, hAsks⟩ :=
      childrenAsked_planned children hModel.siblings hUnder
    have hChildren : own.model.children = children := by rw [hOwn]; rfl
    rw [← hChildren] at hPlanned hAsks
    refine ⟨.cons (hOwn ▸ hModel) hPlanned (fun a ha hSame => ?_) hAsks, List.mem_cons_self,
      List.forall_mem_cons.mpr ⟨List.prefix_refl _, fun a ha => ?_⟩⟩
    · obtain ⟨child, _, hPrefix⟩ := hWithin a ha
      rw [hSame] at hPrefix
      have hLength := hPrefix.length_le
      rw [List.length_append, List.length_singleton] at hLength
      omega
    · obtain ⟨child, _, hPrefix⟩ := hWithin a ha
      exact (List.prefix_append _ _).trans hPrefix

theorem childrenAsked_planned (children : List Model) (hChildren : Siblings children)
    {parent : Asked} {asked : List Asked} (h : ChildrenAsked parent asked children) :
    Planned (fun a => ∃ child ∈ children, a.IsFor parent child) asked ∧
      (∀ a ∈ asked, ∃ child ∈ children, parent.path ++ [child.name] <+: a.path) ∧
      ∀ child ∈ children, parent.HasLink child → ∃ a ∈ asked, a.IsFor parent child := by
  cases children with
  | nil =>
    cases h
    exact ⟨.nil _, List.forall_mem_nil _, List.forall_mem_nil _⟩
  | cons child rest =>
    obtain ⟨here, later, rfl, hLater, hHere⟩ := h
    obtain ⟨hPlanned, hWithin, hAsks⟩ := childrenAsked_planned rest hChildren.tail hLater
    have hRest : Planned (fun a => ∃ c ∈ child :: rest, a.IsFor parent c) later := by
      refine hPlanned.mono ?_
      rintro a ⟨c, hc, hFor⟩
      exact ⟨c, List.mem_cons_of_mem _ hc, hFor⟩
    rcases hHere with ⟨hNone, rfl⟩ | ⟨own, hFor, hLevel⟩
    · refine ⟨hRest, fun a ha => ?_, List.forall_mem_cons.mpr ⟨fun h => absurd h hNone, hAsks⟩⟩
      obtain ⟨c, hc, hPrefix⟩ := hWithin a ha
      exact ⟨c, List.mem_cons_of_mem _ hc, hPrefix⟩
    · obtain ⟨hOwn, hMem, hPrefix⟩ := levelAsked_planned child hChildren.first hLevel
      rw [hFor.path] at hPrefix
      have hFirst : Planned (fun a => ∃ c ∈ child :: rest, a.IsFor parent c) here :=
        hOwn.mono fun a ha => ⟨child, List.mem_cons_self, ha ▸ hFor⟩
      refine ⟨hFirst.append hRest fun a ha b hb hSame => ?_,
        List.forall_mem_append.mpr ⟨fun a ha => ⟨child, List.mem_cons_self, hPrefix a ha⟩,
          fun a ha => ?_⟩,
        List.forall_mem_cons.mpr ⟨fun _ => ⟨own, List.mem_append_left _ hMem, hFor⟩,
          fun c hc hLink => ?_⟩⟩
      · obtain ⟨c, hc, hBelow⟩ := hWithin b hb
        exact hChildren.name_ne hc (name_eq_of_below (hSame ▸ hPrefix a ha) hBelow)
      · obtain ⟨c, hc, hBelow⟩ := hWithin a ha
        exact ⟨c, List.mem_cons_of_mem _ hc, hBelow⟩
      · obtain ⟨a, ha, hAsked⟩ := hAsks c hc hLink
        exact ⟨a, List.mem_append_right _ ha, hAsked⟩

end

/-- The session adds to the log, and a statement that was not answered with records makes it
fail. -/
def Session.NeedsRecords {α : Type} (driver : Driver) (session : Session α) : Prop :=
  ∀ log, ∃ executed, (session.run log).2 = log ++ executed ∧
    ∀ before s after e, executed = before ++ s :: after →
      (driver (log ++ before) s >>= Reply.toRecords) = .error e → (session.run log).1 = .error e

namespace Session.NeedsRecords

variable {driver : Driver} {α β : Type}

theorem ofExcept (driver : Driver) (result : Except Error α) :
    (Session.ofExcept result).NeedsRecords driver :=
  fun log => ⟨[], (List.append_nil log).symm, fun _ _ _ _ h => by simp at h⟩

theorem bind {session : Session α} {next : α → Session β} (h : session.NeedsRecords driver)
    (hNext : ∀ v, (next v).NeedsRecords driver) : (session >>= next).NeedsRecords driver := by
  intro log
  obtain ⟨executed, hLater, hFails⟩ := h log
  rw [Session.run_bind]
  rcases hRun : session.run log with ⟨e | v, between⟩
  · rw [hRun] at hLater hFails
    exact ⟨executed, hLater, fun before s after e' hSplit hError => by
      cases hFails before s after e' hSplit hError
      rfl⟩
  · rw [hRun] at hLater hFails
    obtain ⟨more, hMore, hFailsLater⟩ := hNext v between
    dsimp only at hLater ⊢
    refine ⟨executed ++ more, by rw [hMore, hLater, List.append_assoc], ?_⟩
    intro before s after e hSplit hError
    -- The statement is among those of the first session, or among those of the next one.
    rcases List.append_eq_append_iff.mp hSplit with ⟨rest, rfl, hRest⟩ | ⟨rest, rfl, hRest⟩
    · rw [← List.append_assoc, ← hLater] at hError
      exact hFailsLater rest s after e hRest hError
    · cases rest with
      | nil =>
        rw [List.append_nil] at hLater
        rw [← hLater, ← List.append_nil between] at hError
        exact hFailsLater [] s after e hRest.symm hError
      | cons first rest =>
        cases hRest
        cases hFails before s rest e rfl hError

theorem ask (driver : Driver) (s : Statement) :
    (driver.execute s >>= fun reply => Session.ofExcept reply.toRecords).NeedsRecords driver := by
  intro log
  have hRun : (driver.execute s >>= fun reply => Session.ofExcept reply.toRecords).run log =
      (driver log s >>= Reply.toRecords, log ++ [s]) := by
    have hExecute : (driver.execute s).run log = (driver log s, log ++ [s]) := rfl
    rw [Session.run_bind, hExecute]
    cases driver log s <;> rfl
  rw [hRun]
  refine ⟨[s], rfl, fun before other after e hSplit hError => ?_⟩
  obtain ⟨rfl, hRest⟩ := (List.append_eq_singleton_iff.mp hSplit.symm).resolve_right (by simp)
  cases hRest
  rwa [List.append_nil] at hError

end Session.NeedsRecords

section

variable {driver : Driver}

mutual

theorem readLevel_needsRecords (model : Model) (filter : Filter) (page : Option UInt64) :
    (readLevel driver filter page model).NeedsRecords driver := by
  cases model with
  | node entity children =>
    rw [readLevel]
    simp only [← bind_assoc]
    refine (Session.NeedsRecords.ask driver _).bind fun records => ?_
    split
    · exact .ofExcept driver _
    · exact readChildren_needsRecords children _

theorem readChildren_needsRecords (children : List Model) (parents : List Row) :
    (readChildren driver parents children).NeedsRecords driver := by
  cases children with
  | nil => exact .ofExcept driver _
  | cons child rest =>
    rw [readChildren]
    refine (Session.NeedsRecords.ofExcept driver _).bind fun entry => ?_
    dsimp only
    split
    · exact (Session.NeedsRecords.ofExcept driver _).bind fun _ => readChildren_needsRecords rest _
    · exact (readLevel_needsRecords child _ _).bind fun _ => readChildren_needsRecords rest _

end

end

/-- All that was executed between two logs are queries for different models, which were answered
with records: one for the top model, and others each for a child of a model that is among them.
There is one for a child if and only if the rows above have something to find it by. -/
structure AsksOnce (driver : Driver) (log later : Log) (top : Asked) (asked : List Asked) :
    Prop where
  executed : later = log ++ asked.map Asked.statement
  answered : Answers driver log asked later
  top_mem : top ∈ asked
  paths : (asked.map (·.path)).Nodup
  asker : ∀ a ∈ asked, a = top ∨
    ∃ parent ∈ asked, ∃ child ∈ parent.model.children, a.IsFor parent child
  asked_iff : ∀ parent ∈ asked, ∀ child ∈ parent.model.children,
    (∃ a ∈ asked, a.path = parent.path ++ [child.name]) ↔ parent.HasLink child

/-- A read that succeeds asks once for its model and for each child model below that has rows to
belong to. A read in which a statement fails or is not answered with records fails. -/
theorem read_asks_once {model : Model} (hModel : model.Compiled) (driver : Driver)
    (text : Option String) (page : Option UInt64) :
    (∀ log rows, ((read driver model text page).run log).1 = .ok rows →
      ∃ filter records asked,
        text.elim (.ok none) (FilterText.read · model.entity.fields) = .ok filter ∧
        AsksOnce driver log ((read driver model text page).run log).2
          ⟨[], model, ⟨filter⟩, page, records⟩ asked) ∧
    (read driver model text page).NeedsRecords driver := by
  constructor
  · intro log rows hRows
    obtain ⟨filter, _, hText, hLevel⟩ := run_bind_eq_ok (Prod.ext hRows rfl)
    obtain ⟨hFilter, rfl⟩ := Prod.mk.inj hText
    obtain ⟨records, asked, hAnswers, hAsked⟩ :=
      readLevel_asks model hModel.wellFormed [] hLevel
    obtain ⟨hPlanned, hTop, _⟩ := levelAsked_planned model hModel.wellFormed hAsked
    refine ⟨filter, records, asked, ?_, hAnswers.later_eq, hAnswers, hTop, hPlanned.paths,
      hPlanned.asker, fun parent hParent child hChild =>
        hPlanned.exists_iff_hasLink rfl hParent hChild⟩
    cases text <;> exact hFilter
  · exact (Session.NeedsRecords.ofExcept driver _).bind fun _ => readLevel_needsRecords model _ _

namespace Family

open Schema.Family

/-- Persons, their children and the toys of these are each asked for once. -/
theorem family_asks_once :
    ((read driver model none none).run []).2.length = 3 ∧
    (∃ filter records asked,
      none.elim (.ok none) (FilterText.read · model.entity.fields) = .ok filter ∧
      AsksOnce driver [] ((read driver model none none).run []).2
        ⟨[], model, ⟨filter⟩, none, records⟩ asked) ∧
    (read driver model none none).NeedsRecords driver := by
  obtain ⟨hAsks, hNeeds⟩ := read_asks_once model_compiled driver none none
  exact ⟨rfl, hAsks [] _ rfl, hNeeds⟩

end Family

end RowTree
