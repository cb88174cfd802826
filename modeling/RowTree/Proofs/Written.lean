import RowTree.Proofs.Frames
import RowTree.Proofs.Journal

/-!
# The writes of a save

A save performs what its rows owe: first a deletion, which goes from the bottom
up, then a row with the rows under it, then rows side by side. The rows that were
inserted are seen in what it gives by their ids.
-/

namespace RowTree

open Schema Sql

section

variable {driver : Driver} {log : Log}

@[simp] theorem handed_state (link : Option ParentLink) (v : Value) (row : Row) :
    (handed link v row).state = row.state := by
  cases link <;> rfl

@[simp] theorem handed_tempId (link : Option ParentLink) (v : Value) (row : Row) :
    (handed link v row).tempId = row.tempId := by
  cases link <;> rfl

@[simp] theorem handed_children (link : Option ParentLink) (v : Value) (row : Row) :
    (handed link v row).children = row.children := by
  cases link <;> rfl

theorem handed_childRows? (link : Option ParentLink) (v : Value) (row : Row) (name : String) :
    (handed link v row).childRows? name = row.childRows? name := by
  rw [Row.childRows?, handed_children, Row.childRows?]

theorem map_handed_none (v : Value) : List.map (handed none v) = id := List.map_id_fun

theorem mapM_zipIdx {β : Type} (f : Row → Session β) (rows : List Row) :
    rows.mapM f = rows.zipIdx.mapM fun entry => f entry.1 := by
  conv => lhs; rw [← List.zipIdx_map_fst 0 rows]
  rw [List.mapM_map]
  rfl

mutual

theorem deleteRow_performs (model : Model) (hModel : model.WellFormed) {done : List Write}
    {row : Row} {place : Place} {above : Option WriteKind} {v : Value}
    (hReady : Ready done place.tail above model.entity v) :
    Performs driver log done (deletions place above row model)
      (fun _ write => write.due.kind = .delete)
      (deleteRow driver (handed (handingLink above model.entity) v row) model) := by
  cases model with
  | node entity children =>
    rw [deleteRow_node, deletions]
    refine Performs.afterCheck fun statement hStatement => ?_
    have hUnder : Performs driver log done (deletionsUnder place row children)
        (fun _ write => write.due.kind = .delete)
        (deleteChildren driver (handed (handingLink above entity) v row) children) :=
      deleteChildren_performs children hModel.siblings fun _ _ => handed_childRows? _ _ _ _
    refine hUnder.bind (fun _ _ _ _ hTold => hTold) fun saved writes => ?_
    have hDue : (Due.mk place .delete entity row above).statement v =
        .ok (some (.delete statement)) :=
      congrArg (Except.map fun d => some (Statement.delete d)) hStatement
    refine Performs.write hDue (hReady.append writes) (fun _ _ _ => rfl) fun reply => ?_
    exact Performs.afterCheck fun _ _ => Performs.pure _

theorem deleteChildren_performs (children : List Model) (hChildren : Siblings children)
    {done : List Write} {row current : Row} {place : Place}
    (hRows : ∀ child ∈ children, current.childRows? child.name = row.childRows? child.name) :
    Performs driver log done (deletionsUnder place row children)
      (fun _ write => write.due.kind = .delete) (deleteChildren driver current children) := by
  cases children with
  | nil => exact Performs.pure _
  | cons child rest =>
    have hRest (rows : List Row) : ∀ c ∈ rest,
        (current.setChildRows child.name rows).childRows? c.name = row.childRows? c.name := by
      intro c hc
      rw [childRows?_setChildRows_of_ne rows (hChildren.name_ne hc)]
      exact hRows c (List.mem_cons_of_mem _ hc)
    rw [deleteChildren_cons, deletionsUnder, hRows child List.mem_cons_self]
    cases row.childRows? child.name with
    | none =>
      exact deleteChildren_performs rest hChildren.tail fun c hc =>
        hRows c (List.mem_cons_of_mem _ hc)
    | some rows =>
      simp only [Option.getD_some]
      rw [mapM_zipIdx]
      refine (Performs.mapM fun entry _ more => ?_).bind (fun _ _ _ _ hTold => hTold)
        fun saved writes => deleteChildren_performs rest hChildren.tail (hRest saved)
      cases hUnsaved : entry.1.isUnsaved with
      | true => exact Performs.pure _
      | false =>
        exact deleteRow_performs child hChildren.first (ready_none (v := .null))

end

def saveRow (driver : Driver) (entity : Entity) (children : List Model) (row : Row) :
    Session Row :=
  match row.state with
  | some .inserted => do
    let row ← insertRow driver entity row
    saveChildren driver (stitch entity row (children.map Model.entity)) children
  | some .updated => do
    let row ← updateRow driver entity row
    saveChildren driver row children
  | some .deleted => deleteRow driver row (.node entity children)
  | none => saveChildren driver row children

theorem saveRows_node (driver : Driver) (entity : Entity) (children : List Model)
    (rows : List Row) :
    saveRows driver rows (.node entity children) =
      (rows.mapM fun row => ((saveRow driver entity children row).within
        (.remark (.savingRow row.state entity.name row.label))).attempt) >>= fun results =>
      Session.ofExcept (settle entity results) := by
  rw [saveRows, Builders.saveRows]
  rfl

theorem isSome_updated?_handed (link : Option ParentLink) (v w : Value) (row : Row)
    (field : Field) :
    (field.updated? (handed link v row)).isSome = (field.updated? (handed link w row)).isSome := by
  cases link with
  | none => rfl
  | some link =>
    unfold Field.updated?
    split
    · rfl
    · split
      · by_cases hName : link.childField = field.name
        · simp [handed, stitchChild, Row.setData, hName]
        · simp [handed, stitchChild, Row.setData, Entries.get?_set_of_ne _ _ hName]
      · rfl

/-- Whether an update has something to write can be told before the row is handed
its value. -/
theorem writesNothing_eq {due : Due} {v : Value} {result : Option Update}
    (h : due.entity.update (due.written v) = .ok result) : due.writesNothing = result.isNone := by
  obtain ⟨filter, _, h⟩ := Outcome.bind_eq_ok.mp h
  have hEmpty : (due.entity.writable.filterMap fun entry =>
      (entry.1.updated? (due.written v)).map (Assignment.mk entry.2 ·)).isEmpty =
        due.writesNothing := by
    rw [Bool.eq_iff_iff, List.isEmpty_iff, List.filterMap_eq_nil_iff, Due.writesNothing,
      List.all_eq_true]
    refine forall₂_congr fun entry _ => ?_
    rw [Option.map_eq_none_iff, ← Option.isNone_iff_eq_none, ← Option.not_isSome, Due.written,
      isSome_updated?_handed _ v .null, Option.not_isSome, Due.written]
  simp only [hEmpty] at h
  cases hNothing : due.writesNothing with
  | true =>
    rw [hNothing] at h
    cases h
    rfl
  | false =>
    rw [hNothing] at h
    cases h
    rfl

theorem foldl_setData (fields : List Field) (v : Value) (row : Row) :
    ∃ data, fields.foldl (fun row field => row.setData field.name v) row =
      { row with data := data } := by
  induction fields generalizing row with
  | nil => exact ⟨row.data, by cases row; rfl⟩
  | cons field rest ih => exact ih (row.setData field.name v)

theorem fillGuids_eq (entity : Entity) (row : Row) :
    ∃ data, fillGuids entity row = { row with data := data } := by
  unfold fillGuids
  split
  · exact ⟨row.data, by cases row; rfl⟩
  · exact foldl_setData _ _ row

theorem tempId_fillGuids (entity : Entity) (row : Row) :
    (fillGuids entity row).tempId = row.tempId := by
  obtain ⟨data, hData⟩ := fillGuids_eq entity row
  rw [hData]

def insertedRow (entity : Entity) (row : Row) (reply : Reply) : Row :=
  { assignId entity (fillGuids entity row) reply with state := none }

theorem insertRow_eq (driver : Driver) (entity : Entity) (row : Row) :
    insertRow driver entity row =
      driver.execute (.insert (entity.insert (fillGuids entity row))) >>= fun reply =>
        pure (insertedRow entity row reply) := rfl

theorem updateRow_gives {entity : Entity} {row updated : Row}
    (h : (updateRow driver entity row).Gives updated) : updated = { row with state := none } := by
  obtain ⟨statement, _, h⟩ := Session.gives_bind h
  cases statement with
  | none => exact Session.gives_pure h
  | some statement =>
    obtain ⟨_, _, h⟩ := Session.gives_bind h
    obtain ⟨_, _, h⟩ := Session.gives_bind h
    exact Session.gives_pure h

theorem insertedRow_children (entity : Entity) (row : Row) (reply : Reply) :
    (insertedRow entity row reply).children = row.children := by
  obtain ⟨data, hData⟩ := fillGuids_eq entity row
  rw [insertedRow, assignId, hData]
  cases reply.lastId? with
  | none => rfl
  | some key => cases entity.instanceKey? <;> rfl

theorem insertedRow_id (entity : Entity) (row : Row) (reply : Reply) :
    (insertedRow entity row reply).id =
      (reply.lastId?.map Value.ofUInt64 <|> row.tempId) := by
  obtain ⟨data, hData⟩ := fillGuids_eq entity row
  rw [insertedRow, assignId, hData]
  cases reply.lastId? <;> rfl

theorem isNull_ofUInt64 (id : UInt64) : (Value.ofUInt64 id).isNull = false := by
  unfold Value.ofUInt64
  split <;> rfl

theorem linkValue_inserted (entity : Entity) (row : Row) (reply : Reply) (link : ParentLink) :
    linkValue entity (insertedRow entity row reply) link =
      insertedKey entity row reply link.parentField := by
  unfold linkValue insertedKey insertedRow assignId
  cases hReply : reply.lastId? with
  | none =>
    cases entity.instanceKey?.any (·.name == link.parentField) with
    | false => simp [Row.get]
    | true =>
      simp only [Row.get, tempId_fillGuids, Bool.and_true, if_true]
      rfl
  | some id =>
    cases hKey : entity.instanceKey? with
    | none => simp [Row.get]
    | some key =>
      by_cases hName : key.name = link.parentField
      · simp [Row.get, Row.setData, Value.ofOption, hName, isNull_ofUInt64]
      · simp [Row.get, Row.setData, hName, Entries.get?_set_of_ne _ _ hName]

def valueFor (entity : Entity) (row : Row) (child : Entity) : Value :=
  match child.parentLink with
  | some link => linkValue entity row link
  | none => .null

theorem stitch_childRows?_of_not_mem {children : List Model} {name : String}
    (h : name ∉ children.map Model.name) (entity : Entity) (row : Row) :
    (stitch entity row (children.map Model.entity)).childRows? name = row.childRows? name := by
  induction children generalizing row with
  | nil => rfl
  | cons child rest ih =>
    rw [List.map_cons, List.mem_cons, not_or] at h
    refine (ih h.2 _).trans ?_
    dsimp only
    split
    · exact childRows?_setChildRows_of_ne _ (Ne.symm h.1)
    · rfl

theorem stitch_childRows? {children : List Model} (hChildren : Siblings children)
    (entity : Entity) (row : Row) {child : Model} (hChild : child ∈ children) :
    (stitch entity row (children.map Model.entity)).childRows? child.name =
      (row.childRows? child.name).map
        (List.map (handed child.entity.parentLink (valueFor entity row child.entity))) := by
  induction children generalizing row with
  | nil => cases hChild
  | cons first rest ih =>
    rcases List.mem_cons.mp hChild with rfl | hChild
    · refine (stitch_childRows?_of_not_mem hChildren.fresh entity _).trans ?_
      cases hLink : child.entity.parentLink with
      | none =>
        simp only [hLink, map_handed_none, Option.map_id, id]
      | some link =>
        simp only [valueFor, hLink]
        cases hRows : row.childRows? child.name with
        | none =>
          have hNone : row.childRows? child.entity.name = none := hRows
          simp only [hNone]
          exact hRows
        | some rows =>
          have hSome : row.childRows? child.entity.name = some rows := hRows
          simp only [hSome]
          exact Entries.get?_set_self _ _ _
    · refine (ih hChildren.tail _ hChild).trans ?_
      have hName := hChildren.name_ne hChild
      dsimp only
      split
      · exact congrArg _ (childRows?_setChildRows_of_ne _ hName)
      · rfl

theorem childRows?_unhanded {above : Option WriteKind} (h : above ≠ some .insert)
    {current row : Row} (hChildren : current.children = row.children) (entity : Entity) (v : Value)
    (name : String) :
    current.childRows? name =
      (row.childRows? name).map (List.map (handed (handingLink above entity) v)) := by
  rw [handingLink, if_neg h, map_handed_none, Option.map_id, Row.childRows?, hChildren]
  rfl

theorem saveRow_performs {entity : Entity} {children : List Model}
    (hModel : (Model.node entity children).WellFormed) {done : List Write} {row : Row}
    {place : Place} {above : Option WriteKind} {v : Value}
    (hReady : Ready done place.tail above entity v)
    (hBelow : ∀ (done : List Write) (current : Row) (kind : Option WriteKind)
      (values : Entity → Value),
      (∀ child ∈ children, current.childRows? child.name = (row.childRows? child.name).map
        (List.map (handed (handingLink kind child.entity) (values child.entity)))) →
      (∀ child ∈ children, Ready done place kind child.entity (values child.entity)) →
      Performs driver log done (childDues place kind row children) (Write.GivesIdAt place)
        (saveChildren driver current children)) :
    Performs driver log done
      (rowDues place above row (.node entity children) (childDues place · row children))
      (Write.GivesIdAt place)
      (saveRow driver entity children (handed (handingLink above entity) v row)) := by
  unfold saveRow rowDues
  rw [handed_state]
  cases hState : row.state with
  | none =>
    refine hBelow done _ none (fun _ => .null) (fun child _ => ?_) fun child _ => ready_none
    exact childRows?_unhanded (by simp) (handed_children _ _ _) _ _ _
  | some state =>
    cases state with
    | inserted =>
      simp only [insertRow_eq, bind_assoc, pure_bind]
      refine Performs.write (v := v) rfl hReady (fun reply saved hGives root hRow _ => ?_)
        fun reply => ?_
      · refine ⟨saved, hRow, ?_⟩
        rw [(saveChildren_replaced hGives).onlyUnder.id, (stitch_onlyUnder _ _ _).id,
          insertedRow_id, handed_tempId]
        rfl
      refine hBelow _ _ (some .insert)
        (valueFor entity (insertedRow entity (handed (handingLink above entity) v row) reply))
        (fun child hChild => ?_) fun child hChild => ?_
      · rw [stitch_childRows? hModel.siblings _ _ hChild, Row.childRows?, insertedRow_children,
          handed_children]
        rfl
      · intro kind hKind
        cases hKind
        refine ⟨_, List.mem_append_right _ List.mem_cons_self, rfl, rfl, rfl, ?_⟩
        intro _ link hLink
        rw [valueFor, hLink]
        exact linkValue_inserted _ _ _ _
    | updated =>
      simp only [updateRow_eq, bind_assoc]
      refine Performs.afterCheck fun result hResult => ?_
      have hDue : (Due.mk place .update entity row above).writesNothing = result.isNone :=
        writesNothing_eq (v := v) hResult
      cases result with
      | none =>
        simp only [Option.isNone_none] at hDue
        simp only [Model.entity, hDue, if_true, pure_bind]
        refine hBelow done _ none (fun _ => .null) (fun child _ => ?_) fun child _ => ready_none
        exact childRows?_unhanded (by simp) (handed_children _ _ _) _ _ _
      | some statement =>
        simp only [Option.isNone_some] at hDue
        simp only [Model.entity, hDue, bind_assoc, Bool.false_eq_true, if_false]
        have hStatement : (Due.mk place .update entity row above).statement v =
            .ok (some (.update statement)) :=
          congrArg (Except.map (Option.map Statement.update)) hResult
        refine Performs.write hStatement hReady (fun _ _ _ _ _ hInsert => ?_) fun reply => ?_
        · cases hInsert
        refine Performs.afterCheck fun count hCount => ?_
        rw [pure_bind]
        refine hBelow _ _ (some .update) (fun _ => .null) (fun child _ => ?_) fun child _ => ?_
        · exact childRows?_unhanded (by simp) (handed_children _ _ _) _ _ _
        · intro kind hKind
          cases hKind
          refine ⟨_, List.mem_append_right _ List.mem_cons_self, rfl, rfl, ?_, ?_⟩
          · exact congrArg (Except.map fun _ => ()) hCount
          · intro hInsert
            cases hInsert
    | deleted =>
      refine (deleteRow_performs (.node entity children) hModel hReady).imp ?_
      intro _ _ write hDelete _ _ hInsert
      rw [hDelete] at hInsert
      cases hInsert

theorem getElem?_of_mem_zip_zipIdx {rows saved : List Row} {entry : Row × Nat} {s : Row}
    (h : (entry, s) ∈ rows.zipIdx.zip saved) : saved[entry.2]? = some s := by
  obtain ⟨i, hi⟩ := List.getElem?_of_mem h
  obtain ⟨hEntry, hSaved⟩ := List.getElem?_zip_eq_some.mp hi
  rw [List.getElem?_zipIdx, Option.map_eq_some_iff] at hEntry
  obtain ⟨row, _, rfl⟩ := hEntry
  rwa [← Nat.zero_add i] at hSaved

theorem duesOf_nil (place : Place) (above : Option WriteKind) (model : Model) :
    duesOf place above [] model = [] := by
  cases model
  rfl

mutual

theorem saveRows_performs (model : Model) (hModel : model.WellFormed) {done : List Write}
    {rows : List Row} {place : Place} {above : Option WriteKind} {v : Value}
    (hReady : Ready done place above model.entity v) :
    Performs driver log done (duesOf place above rows model)
      (fun saved write => ∀ parent : Row, parent.childRows? model.name = some saved →
        write.GivesIdAt place parent)
      (saveRows driver (rows.map (handed (handingLink above model.entity) v)) model) := by
  -- The rows are saved as their parent hands them on; what is due is said of the rows
  -- as they were given. The value that is handed on is the same for all of them.
  cases model with
  | node entity children =>
    rw [saveRows_node, duesOf, List.mapM_map, mapM_zipIdx]
    refine Performs.imp (performs_settled entity fun entry _ more =>
      (saveRow_performs hModel (hReady.append more) ?_).within _) ?_
    · intro done current kind values hRows hValues
      exact saveChildren_performs children hModel.siblings values hRows hValues
    · rintro saved _ write ⟨⟨⟨row, i⟩, s⟩, hEntry, hTold⟩ parent hSaved root hParent
      refine hTold root ?_
      rw [rowAt?, hParent, Option.bind_some]
      exact (congrArg (Option.bind · (·[i]?)) hSaved).trans (getElem?_of_mem_zip_zipIdx hEntry)

theorem saveChildren_performs (children : List Model) (hChildren : Siblings children)
    {done : List Write} {row current : Row} {place : Place} {above : Option WriteKind}
    (values : Entity → Value)
    (hRows : ∀ child ∈ children, current.childRows? child.name = (row.childRows? child.name).map
      (List.map (handed (handingLink above child.entity) (values child.entity))))
    (hReady : ∀ child ∈ children, Ready done place above child.entity (values child.entity)) :
    Performs driver log done (childDues place above row children) (Write.GivesIdAt place)
      (saveChildren driver current children) := by
  cases children with
  | nil => exact Performs.pure _
  | cons child rest =>
    have hRest (rows : List Row) : ∀ c ∈ rest,
        (current.setChildRows child.name rows).childRows? c.name =
          (row.childRows? c.name).map
            (List.map (handed (handingLink above c.entity) (values c.entity))) := by
      intro c hc
      rw [childRows?_setChildRows_of_ne rows (hChildren.name_ne hc)]
      exact hRows c (List.mem_cons_of_mem _ hc)
    have readyRest (c : Model) (hc : c ∈ rest) := hReady c (List.mem_cons_of_mem _ hc)
    have hSkip := saveChildren_performs rest hChildren.tail values
      (fun c hc => hRows c (List.mem_cons_of_mem _ hc)) readyRest
    rw [saveChildren_cons, childDues, hRows child List.mem_cons_self]
    cases hChild : row.childRows? child.name with
    | none =>
      rw [Option.getD_none, duesOf_nil, List.nil_append]
      exact hSkip
    | some rows =>
      have hSave : Performs driver log done (duesOf place above rows child)
          (fun saved write => ∀ parent : Row, parent.childRows? child.name = some saved →
            write.GivesIdAt place parent)
          (saveRows driver
            (rows.map (handed (handingLink above child.entity) (values child.entity))) child) :=
        saveRows_performs child hChildren.first (hReady child List.mem_cons_self)
      cases rows with
      | nil =>
        rw [Option.getD_some, duesOf_nil, List.nil_append]
        exact hSkip
      | cons first others =>
        refine hSave.bind (fun saved s hGives write hTold => hTold s ?_) fun saved writes =>
          saveChildren_performs rest hChildren.tail values (hRest saved)
            fun c hc => (readyRest c hc).append writes
        rw [(saveChildren_replaced hGives).frame hChildren.fresh]
        exact Entries.get?_set_self _ _ _

end

/-- The writes of a save, with what is seen of them in the rows that it gives. -/
theorem save_performs_ids (driver : Driver) (log : Log) {model : Model} (hModel : model.WellFormed)
    (rows : List Row) :
    Performs driver log [] (dues model rows)
      (fun saved write => write.GivesId (rootOf model saved)) (save driver model rows) := by
  refine Performs.afterCheck fun _ _ => Performs.afterCheck fun _ _ => ?_
  have hRows : Performs driver log [] (dues model rows)
      (fun saved write => ∀ parent : Row, parent.childRows? model.name = some saved →
        write.GivesIdAt [] parent)
      (saveRows driver (rows.map (handed none .null)) model) :=
    saveRows_performs model hModel ready_none
  rw [map_handed_none, id] at hRows
  refine hRows.imp fun saved _ write hTold => hTold (rootOf model saved) ?_ _ rfl
  exact if_pos rfl

theorem save_performs (driver : Driver) (log : Log) {model : Model} (hModel : model.WellFormed)
    (rows : List Row) :
    ∃ writes, Journal driver log [] (dues model rows)
      (∃ v, ((save driver model rows).run (logAfter log [])).1 = .ok v)
      ((save driver model rows).run (logAfter log [])).2 writes := by
  obtain ⟨writes, hJournal, _⟩ := save_performs_ids driver log hModel rows
  exact ⟨writes, hJournal⟩

end

end RowTree
