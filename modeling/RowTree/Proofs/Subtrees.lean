import Mathlib.Data.List.Nodup
import RowTree.Proofs.Compiled
import RowTree.Proofs.Partition

/-!
# Reading by batches and reading parent by parent

The reader asks for the children of all rows of a level at once and then gives
every row its own. Here the same tree is said parent by parent: under a row
stand the records whose link value has the key of the row's own. The two agree
for every driver that answers from a fixed list of records for each child model.
-/

namespace RowTree

open Schema Sql

/-- Both values have a key and it is the same. -/
def Value.sameKey (v w : Value) : Bool :=
  match v.key? with
  | none => false
  | some key => w.key? == some key

def fieldValue (record : Record) (field : String) : Value := Value.ofOption (record.get? field)

/-- The records that belong under a row, in order. -/
def recordsUnder (entity : Entity) (row : Row) (records : List Record) : List Record :=
  match entity.parentLink with
  | none => []
  | some link =>
    records.filter fun record =>
      (row.get link.parentField).sameKey (fieldValue record link.childField)

mutual

/-- The row of a record and all rows under it, if `stored` holds the records of
the child model at a path of names. -/
def subtree (stored : List String → List Record) (path : List String) (record : Record) :
    Model → Row
  | .node entity children =>
    let row := entity.toRow record
    { row with children := subtreesUnder stored path row children }

def subtreesUnder (stored : List String → List Record) (path : List String) (row : Row) :
    List Model → List (String × List Row)
  | [] => []
  | child :: rest =>
    let below := path ++ [child.name]
    (child.name, (recordsUnder child.entity row (stored below)).map (subtree stored below · child))
      :: subtreesUnder stored path row rest

end

/-- The model at the end of a path of child names. -/
def Schema.Model.at? (model : Model) : List String → Option Model
  | [] => some model
  | name :: path => (model.child? name).bind (at? · path)

/-- The driver answers the query for the children with any link values by those
stored records that have one of their keys. -/
def Serves (driver : Driver) (stored : List String → List Record) (model : Model) : Prop :=
  ∀ path child link column, path ≠ [] → model.at? path = some child →
    linkColumn child.entity = .ok (link, column) → ∀ (values : List Value) (log : Log),
      driver log (.query
          (child.entity.query ⟨some (.inList column (values.map .value))⟩ none)) =
        .ok (.records ((stored path).filter fun record =>
          values.any (·.sameKey (fieldValue record link.childField))))

/-- The field that links an entity to its parents is not read as a truth value. -/
def Schema.Entity.PlainLink (entity : Entity) : Prop :=
  ∀ link field, entity.parentLink = some link → entity.field? link.childField = some field →
    field.isBoolean = false

theorem matching_eq (rows : List Row) (field : String) (v : Value) :
    matching rows field v = rows.filter fun row => v.sameKey (row.get field) := by
  refine List.filter_congr fun row _ => ?_
  rw [Value.sameKey]
  cases v.key? <;> cases (row.get field).key? <;> simp

/-- No key gets lost when repeated ones are left out. -/
theorem exists_distinctValues {values : List Value} {v : Value} {key : Key}
    (hv : v ∈ values) (hKey : v.key? = some key) {seen : List Key} (hSeen : key ∉ seen) :
    ∃ w ∈ distinctValues seen values, w.key? = some key := by
  induction values generalizing seen with
  | nil => cases hv
  | cons u rest ih =>
    rw [distinctValues]
    cases hu : u.key? with
    | none =>
      rcases List.mem_cons.mp hv with rfl | hv
      · rw [hKey] at hu
        cases hu
      · exact ih hv hSeen
    | some other =>
      by_cases hOther : other = key
      · subst hOther
        simp only [List.contains_eq_mem, hSeen, decide_false, Bool.false_eq_true, if_false]
        exact ⟨u, List.mem_cons_self, hu⟩
      · have hv : v ∈ rest := by
          rcases List.mem_cons.mp hv with rfl | hv
          · rw [hKey] at hu
            exact absurd (Option.some.inj hu).symm hOther
          · exact hv
        simp only
        split
        · exact ih hv hSeen
        · have hFresh : key ∉ other :: seen := by
            rw [List.mem_cons, not_or]
            exact ⟨fun h => hOther h.symm, hSeen⟩
          obtain ⟨w, hw, hwKey⟩ := ih hv hFresh
          exact ⟨w, List.mem_cons_of_mem _ hw, hwKey⟩

theorem sameKey_congr {v w : Value} (h : v.key? = w.key?) (u : Value) :
    v.sameKey u = w.sameKey u := by
  simp only [Value.sameKey, h]

theorem any_linkValues {parents : List Row} {parent : Row} (hParent : parent ∈ parents)
    {field : String} {u : Value} (h : (parent.get field).sameKey u = true) :
    (linkValues parents field).any (·.sameKey u) = true := by
  cases hKey : (parent.get field).key? with
  | none => simp [Value.sameKey, hKey] at h
  | some key =>
    have hMem : parent.get field ∈ parents.map (·.get field) :=
      List.mem_map.mpr ⟨parent, hParent, rfl⟩
    obtain ⟨w, hw, hwKey⟩ := exists_distinctValues hMem hKey (List.not_mem_nil (a := key))
    exact List.any_eq_true.mpr ⟨w, hw, by rwa [sameKey_congr (hwKey.trans hKey.symm)]⟩

theorem get?_map_of_not_mem {record : Record} {names : List String} {field : String}
    {f : Value → Value} (h : field ∉ names) :
    Entries.get? (record.map fun entry =>
      if names.contains entry.1 then (entry.1, f entry.2) else entry) field =
      Entries.get? record field := by
  induction record with
  | nil => rfl
  | cons entry rest ih =>
    obtain ⟨name, v⟩ := entry
    rw [List.map_cons]
    by_cases hName : name = field
    · subst hName
      simp [Entries.get?, h]
    · by_cases hBoolean : name ∈ names <;> simp [Entries.get?, hName, hBoolean, ← ih]

theorem get_toRow {entity : Entity} {field : String}
    (h : field ∉ entity.booleanFields.map (·.name)) (record : Record) :
    (entity.toRow record).get field = fieldValue record field :=
  congrArg Value.ofOption (get?_map_of_not_mem h)

theorem Schema.Entity.PlainLink.not_mem {entity : Entity} {link : ParentLink} {field : Field}
    (h : entity.PlainLink) (hFields : (entity.fields.map (·.name)).Nodup)
    (hLink : entity.parentLink = some link) (hField : entity.field? link.childField = some field) :
    link.childField ∉ entity.booleanFields.map (·.name) := by
  intro hMem
  obtain ⟨other, hOther, hName⟩ := List.mem_map.mp hMem
  obtain ⟨hOther, hBoolean⟩ := List.mem_filter.mp hOther
  have hFound := List.find?_some hField
  have hSame : other = field :=
    List.inj_on_of_nodup_map hFields hOther (List.mem_of_find?_eq_some hField)
      (hName.trans (beq_iff_eq.mp hFound).symm)
  rw [hSame, h link field hLink hField] at hBoolean
  cases hBoolean

theorem at?_append {root : Model} (path : List String) {model : Model}
    (h : root.at? path = some model) (name : String) :
    root.at? (path ++ [name]) = model.child? name := by
  induction path generalizing root with
  | nil =>
    cases h
    simp only [List.nil_append, Model.at?]
    exact Option.bind_fun_some _
  | cons first rest ih =>
    obtain ⟨child, hChild, h⟩ := Option.bind_eq_some_iff.mp h
    simp only [List.cons_append, Model.at?, hChild, Option.bind_some]
    exact ih h

theorem get_subtree (stored : List String → List Record) (path : List String) (record : Record)
    (model : Model) (field : String) :
    (subtree stored path record model).get field = (model.entity.toRow record).get field := by
  cases model
  rfl

theorem subtreesUnder_congr (stored : List String → List Record) (path : List String)
    (row other : Row) (h : row.data = other.data) (children : List Model) :
    subtreesUnder stored path row children = subtreesUnder stored path other children := by
  induction children with
  | nil => rfl
  | cons child rest ih => simp only [subtreesUnder, recordsUnder, Row.get, h, ih]

/-- Of the rows that were read for all parents, those that match one parent are
the ones that belong under it. -/
theorem matching_batch {stored : List String → List Record} {path : List String} {child : Model}
    {link : ParentLink} (hLink : child.entity.parentLink = some link)
    (hPlain : link.childField ∉ child.entity.booleanFields.map (·.name))
    {parents : List Row} {parent : Row} (hParent : parent ∈ parents) (records : List Record) :
    matching
        ((records.filter fun record =>
            (linkValues parents link.parentField).any
              (·.sameKey (fieldValue record link.childField))).map
          (subtree stored path · child))
        link.childField (parent.get link.parentField) =
      (recordsUnder child.entity parent records).map (subtree stored path · child) := by
  rw [matching_eq, List.filter_map, List.filter_filter, recordsUnder, hLink]
  refine congrArg _ (List.filter_congr fun record _ => ?_)
  rw [Function.comp_apply, get_subtree, get_toRow hPlain]
  cases hKey : (parent.get link.parentField).sameKey (fieldValue record link.childField) with
  | false => rfl
  | true => rw [any_linkValues hParent hKey, Bool.and_self]

def batch (stored : List String → List Record) (path : List String) (child : Model)
    (link : ParentLink) (parents : List Row) : List Row :=
  let below := path ++ [child.name]
  ((stored below).filter fun record =>
    (linkValues parents link.parentField).any (·.sameKey (fieldValue record link.childField))).map
      (subtree stored below · child)

theorem attach_batch {stored : List String → List Record} {path : List String} {child : Model}
    {rest : List Model} {link : ParentLink} (hLink : child.entity.parentLink = some link)
    (hPlain : link.childField ∉ child.entity.booleanFields.map (·.name)) {parents : List Row}
    (hFresh : ∀ parent ∈ parents, ∀ c ∈ child :: rest, c.name ∉ Entries.names parent.children) :
    ((attach child.name link parents (batch stored path child link parents)).map fun parent =>
        { parent with children := parent.children ++ subtreesUnder stored path parent rest }) =
      parents.map fun parent =>
        { parent with
          children := parent.children ++ subtreesUnder stored path parent (child :: rest) } := by
  rw [attach_eq_map, List.map_map]
  refine List.map_congr_left fun parent hParent => ?_
  have hSet := Entries.set_of_not_mem (hFresh parent hParent child List.mem_cons_self)
    (matching (batch stored path child link parents) link.childField (parent.get link.parentField))
  rw [batch, matching_batch hLink hPlain hParent] at hSet
  rw [Function.comp_apply, batch, matching_batch hLink hPlain hParent, Row.setChildRows, hSet]
  have hUnder (rows : List (String × List Row)) :
      subtreesUnder stored path { parent with children := rows } rest =
        subtreesUnder stored path parent rest :=
    subtreesUnder_congr stored path { parent with children := rows } parent rfl rest
  simp only [hUnder, subtreesUnder, List.append_assoc, List.singleton_append]

theorem attach_fresh {child : Model} {rest : List Model} (hChildren : Siblings (child :: rest))
    {parents : List Row}
    (hFresh : ∀ parent ∈ parents, ∀ c ∈ child :: rest, c.name ∉ Entries.names parent.children)
    (link : ParentLink) (rows : List Row) :
    ∀ parent ∈ attach child.name link parents rows, ∀ c ∈ rest,
      c.name ∉ Entries.names parent.children := by
  intro attached hAttached c hc
  rw [attach_eq_map] at hAttached
  obtain ⟨parent, hParent, rfl⟩ := List.mem_map.mp hAttached
  rw [Row.setChildRows, Entries.set_of_not_mem (hFresh parent hParent child List.mem_cons_self)]
  simp only [Entries.names, List.map_append, List.mem_append, List.map_singleton,
    List.mem_singleton, not_or]
  exact ⟨hFresh parent hParent c (List.mem_cons_of_mem _ hc), (hChildren.name_ne hc).symm⟩

theorem Schema.Entity.Linked.linkColumn {entity : Entity} (h : entity.Linked) :
    ∃ link field column, entity.parentLink = some link ∧
      entity.field? link.childField = some field ∧
      RowTree.linkColumn entity = .ok (link, column) := by
  obtain ⟨link, field, name, hLink, hField, hName⟩ := h
  refine ⟨link, field, Expr.columnOf field.step name, hLink, hField, ?_⟩
  simp only [RowTree.linkColumn, hLink, hField, Field.expr?, hName, Option.bind_some,
    Option.map_some]

section

variable {driver : Driver} {stored : List String → List Record} {root : Model}

mutual

theorem readLevel_yields (hServes : Serves driver stored root)
    (hPlain : ∀ path child, path ≠ [] → root.at? path = some child → child.entity.PlainLink)
    {path : List String} (model : Model) (hAt : root.at? path = some model)
    (hModel : model.WellFormed) {filter : Filter} {page : Option UInt64} {records : List Record}
    (hRecords : ∀ log, driver log (.query (model.entity.query filter page)) =
      .ok (.records records)) :
    (readLevel driver filter page model).Yields (records.map (subtree stored path · model)) := by
  cases model with
  | node entity children =>
    have hChildren := hModel.siblings
    have hAnswer : (driver.execute (.query (entity.query filter page))).Yields
        (.records records) := hRecords
    rw [readLevel]
    refine hAnswer.bind (Session.Yields.bind (Session.yields_ofExcept rfl) ?_)
    by_cases hEmpty : (records.map entity.toRow).isEmpty = true
    · rw [if_pos hEmpty]
      rw [List.isEmpty_map, List.isEmpty_iff] at hEmpty
      subst hEmpty
      exact fun _ => rfl
    · rw [if_neg hEmpty]
      have hFresh : ∀ parent ∈ records.map entity.toRow, ∀ child ∈ children,
          child.name ∉ Entries.names parent.children := by
        intro parent hParent child _
        obtain ⟨record, _, rfl⟩ := List.mem_map.mp hParent
        exact List.not_mem_nil
      have hPaths : ∀ child ∈ children, root.at? (path ++ [child.name]) = some child := by
        intro child hChild
        rw [at?_append path hAt]
        exact Compile.find?_of_nodup hChildren.names hChild
      have hBelow := readChildren_yields hServes hPlain children hChildren hPaths hFresh
      rw [List.map_map] at hBelow
      exact hBelow

theorem readChildren_yields (hServes : Serves driver stored root)
    (hPlain : ∀ path child, path ≠ [] → root.at? path = some child → child.entity.PlainLink)
    {path : List String} (children : List Model) (hChildren : Siblings children)
    (hPaths : ∀ child ∈ children, root.at? (path ++ [child.name]) = some child)
    {parents : List Row}
    (hFresh : ∀ parent ∈ parents, ∀ child ∈ children,
      child.name ∉ Entries.names parent.children) :
    (readChildren driver parents children).Yields (parents.map fun parent =>
      { parent with children := parent.children ++ subtreesUnder stored path parent children }) := by
  cases children with
  | nil =>
    intro log
    have hSame : (fun parent : Row =>
        { parent with children := parent.children ++ subtreesUnder stored path parent [] }) =
        id := by
      funext parent
      cases parent
      simp [subtreesUnder]
    rw [hSame, List.map_id]
    rfl
  | cons child rest =>
    have hAt := hPaths child List.mem_cons_self
    have hLinked := hChildren.linked child List.mem_cons_self
    obtain ⟨link, field, column, hLink, hField, hColumn⟩ := hLinked.linkColumn
    have hNonempty : path ++ [child.name] ≠ [] := by simp
    have hNotBoolean : link.childField ∉ child.entity.booleanFields.map (·.name) :=
      (hPlain _ _ hNonempty hAt).not_mem hChildren.first.fields hLink hField
    have hRest := readChildren_yields hServes hPlain rest hChildren.tail
      (fun c hc => hPaths c (List.mem_cons_of_mem _ hc))
      (attach_fresh hChildren hFresh link (batch stored path child link parents))
    rw [attach_batch hLink hNotBoolean hFresh] at hRest
    rw [readChildren]
    refine Session.Yields.bind (Session.yields_ofExcept hColumn) ?_
    by_cases hEmpty : (linkValues parents link.parentField).isEmpty = true
    · -- Nothing is asked for, and of no value there would be no records.
      have hBatch : batch stored path child link parents = [] := by
        simp [batch, List.isEmpty_iff.mp hEmpty]
      rw [hBatch] at hRest
      simp only [if_pos hEmpty]
      exact Session.Yields.bind (fun _ => rfl) hRest
    · simp only [if_neg hEmpty]
      refine Session.Yields.bind (readLevel_yields hServes hPlain child hAt hChildren.first ?_) hRest
      exact hServes _ child link column hNonempty hAt hColumn _

end

end

/-- Reading by batches gives the tree that is said parent by parent. -/
theorem read_eq_subtrees {driver : Driver} {model : Model} (hModel : model.Compiled)
    (stored : List String → List Record) (records : List Record)
    (text : Option String) (page : Option UInt64) (filter : Option Expr)
    (hText : text.elim (.ok none) (FilterText.read · model.entity.fields) = .ok filter)
    (hTop : ∀ log, driver log (.query (model.entity.query ⟨filter⟩ page)) =
      .ok (.records records))
    (hServes : Serves driver stored model)
    (hPlain : ∀ path child, path ≠ [] → model.at? path = some child → child.entity.PlainLink)
    (log : Log) :
    ((read driver model text page).run log).1 =
      .ok (records.map (subtree stored [] · model)) := by
  have hAt : model.at? [] = some model := rfl
  have hLevel := readLevel_yields hServes hPlain model hAt hModel.wellFormed hTop
  have hRead : (read driver model text page).Yields (records.map (subtree stored [] · model)) := by
    refine Session.Yields.bind (Session.yields_ofExcept ?_) hLevel
    cases text <;> exact hText
  exact hRead log

namespace Family

open Schema.Family

/-- Two children of the second person, one of the first, and one of nobody. -/
def stored : List String → List Record
  | ["Child"] =>
    [[("ChildID", .int 10), ("ParentID", .int 2)], [("ChildID", .int 11), ("ParentID", .int 1)],
      [("ChildID", .int 12), ("ParentID", .nat 2)], [("ChildID", .int 13), ("ParentID", .null)]]
  | ["Child", "Toy"] =>
    [[("ToyID", .int 20), ("OwnerID", .int 12)], [("ToyID", .int 21), ("OwnerID", .int 13)]]
  | _ => []

def persons : List Record :=
  [[("PersonID", .int 2)], [("PersonID", .int 1)], [("PersonID", .null)], [("PersonID", .int 2)]]

/-- Answers from the stored records, by the table that a query is for. -/
def driver : Driver := fun _ statement =>
  match statement with
  | .query q =>
    let asked := match q.filter.expr? with
      | some (.inList _ list) => list.filterMap Expr.value?
      | _ => []
    let having (path : List String) (field : String) : List Record :=
      (stored path).filter fun record => asked.any (·.sameKey (fieldValue record field))
    if q.table = "person" then .ok (.records persons)
    else if q.table = "child" then .ok (.records (having ["Child"] "ParentID"))
    else .ok (.records (having ["Child", "Toy"] "OwnerID"))
  | _ => .ok (.count 0)

theorem filterMap_value (values : List Value) :
    (values.map Expr.value).filterMap Expr.value? = values := by
  rw [List.filterMap_map]
  exact List.filterMap_some

theorem child?_singleton {entity : Entity} {only found : Model} {name : String}
    (h : (Model.node entity [only]).child? name = some found) : name = only.name ∧ found = only := by
  have hFound : found = only := List.mem_singleton.mp (List.mem_of_find?_eq_some h)
  have hName := List.find?_some h
  rw [hFound] at hName
  exact ⟨(beq_iff_eq.mp hName).symm, hFound⟩

theorem at?_model {path : List String} {found : Model} (hPath : path ≠ [])
    (h : model.at? path = some found) :
    path = ["Child"] ∧ found = .node child [.node toy []] ∨
      path = ["Child", "Toy"] ∧ found = .node toy [] := by
  cases path with
  | nil => exact absurd rfl hPath
  | cons name rest =>
    obtain ⟨_, hChild, h⟩ := Option.bind_eq_some_iff.mp h
    obtain ⟨rfl, rfl⟩ := child?_singleton hChild
    cases rest with
    | nil =>
      cases h
      exact .inl ⟨rfl, rfl⟩
    | cons name rest =>
      obtain ⟨_, hToy, h⟩ := Option.bind_eq_some_iff.mp h
      obtain ⟨rfl, rfl⟩ := child?_singleton hToy
      cases rest with
      | nil =>
        cases h
        exact .inr ⟨rfl, rfl⟩
      | cons name rest =>
        obtain ⟨_, hNone, _⟩ := Option.bind_eq_some_iff.mp h
        cases hNone

theorem serves : Serves driver stored model := by
  intro path found link column hPath hAt hColumn values log
  rcases at?_model hPath hAt with ⟨rfl, rfl⟩ | ⟨rfl, rfl⟩
  · cases hColumn
    have hAsked := filterMap_value values
    change Except.ok (Reply.records ((stored ["Child"]).filter fun record =>
      ((values.map Expr.value).filterMap Expr.value?).any
        (·.sameKey (fieldValue record "ParentID")))) = _
    rw [hAsked]
  · cases hColumn
    have hAsked := filterMap_value values
    change Except.ok (Reply.records ((stored ["Child", "Toy"]).filter fun record =>
      ((values.map Expr.value).filterMap Expr.value?).any
        (·.sameKey (fieldValue record "OwnerID")))) = _
    rw [hAsked]

def toyRow (id owner : Int64) : Row where
  data := [("ToyID", .int id), ("OwnerID", .int owner)]
  id := some (.int id)
  foreignKey := some (.int owner)

def childRow (id : Int64) (parent : Value) (toys : List Row) : Row where
  data := [("ChildID", .int id), ("ParentID", parent)]
  id := some (.int id)
  foreignKey := some parent
  children := [("Toy", toys)]

def personRow (id : Value) (children : List Row) : Row where
  data := [("PersonID", id)]
  id := Value.present? (some id)
  children := [("Child", children)]

/-- The person without a key has no children, and the two records of one person
have the same. -/
theorem read_family :
    ((read driver model none none).run []).1 = .ok
      [personRow (.int 2) [childRow 10 (.int 2) [], childRow 12 (.nat 2) [toyRow 20 12]],
        personRow (.int 1) [childRow 11 (.int 1) []],
        personRow .null [],
        personRow (.int 2) [childRow 10 (.int 2) [], childRow 12 (.nat 2) [toyRow 20 12]]] :=
  read_eq_subtrees model_compiled stored persons none none none rfl (fun _ => rfl)
    serves (by
      intro path found hPath hAt link field hLink hField
      rcases at?_model hPath hAt with ⟨rfl, rfl⟩ | ⟨rfl, rfl⟩ <;>
        (cases hLink; cases hField; rfl)) []

end Family

end RowTree
