import RowTree.Proofs.AlikeTables
import RowTree.Proofs.Reread

/-!
# Tables through a text

A table that was read from a text is written and read back. All of it comes back, except that a
column loses a default which it has by the older name only: that name is read and never written.
Exactly then the default that counts is another one, and exactly then, if the column is the first of
its name, some definition compiles to another model.
-/

namespace RowTree

open Json (reread rereadItems rereadMembers)

namespace Json

variable {α : Type}

/-- A list that is read back item by item. -/
theorem mapM_written {f : Json → Option α} {g : α → Json} {back : α → α} {xs : List α}
    (h : ∀ x ∈ xs, f (g x) = some (back x)) : (xs.map g).mapM f = some (xs.map back) := by
  induction xs with
  | nil => rfl
  | cons x xs ih =>
    obtain ⟨hFirst, hRest⟩ := List.forall_mem_cons.mp h
    rw [List.map_cons, List.mapM_cons, hFirst, ih hRest]
    rfl

theorem exists_of_mapM {f : Json → Option α} {items : List Json} {xs : List α}
    (h : items.mapM f = some xs) : ∀ x ∈ xs, ∃ j, f j = some x := by
  induction items generalizing xs with
  | nil =>
    cases h
    nofun
  | cons item rest ih =>
    rw [List.mapM_cons] at h
    obtain ⟨first, hFirst, h⟩ := Option.bind_eq_some_iff.mp h
    obtain ⟨more, hMore, h⟩ := Option.bind_eq_some_iff.mp h
    cases h
    exact List.forall_mem_cons.mpr ⟨⟨item, hFirst⟩, ih hMore⟩

theorem exists_of_listOf {f : Json → Option α} {slot : Option Json} {xs : List α}
    (h : listOf f slot = some xs) : ∀ x ∈ xs, ∃ j, f j = some x := by
  cases slot with
  | none =>
    cases h
    nofun
  | some v =>
    obtain ⟨items, -, hItems⟩ := Option.bind_eq_some_iff.mp h
    exact exists_of_mapM hItems

theorem rereadItems_map {room : Nat} {f : α → Json} (h : ∀ x, reread room (f x) = f x)
    (xs : List α) : rereadItems room (xs.map f) = xs.map f := by
  induction xs with
  | nil => rfl
  | cons x xs ih => rw [List.map_cons, rereadItems, h, ih]

theorem optional_written {read : Json → Option α} {f : α → Json} {part : Option α}
    (h : ∀ x ∈ part, f x ≠ null ∧ read (f x) = some x) :
    optional read (part.map f) = some part := by
  cases part with
  | none => rfl
  | some x =>
    obtain ⟨hNotNull, hRead⟩ := h x rfl
    rw [Option.map_some, optional, hRead, Option.map_some]
    exact hNotNull

theorem listOf_written {read : Json → Option α} {f : α → Json} {back : α → α} {xs : List α}
    (h : ∀ x ∈ xs, read (f x) = some (back x)) :
    listOf read (some (array (xs.map f))) = some (xs.map back) := mapM_written h

end Json

namespace Schema

def Column.written (column : Column) : Column := { column with olderDefault := none }

def Table.written (table : Table) : Table :=
  { table with columns := table.columns.map Column.written }

/-- The column has a default, by the older name only. -/
def Column.OnlyOlder (column : Column) : Prop :=
  column.columnDefault = none ∧ column.olderDefault ≠ none

theorem Column.default?_written_iff (column : Column) :
    column.written.default? = column.default? ↔ ¬ column.OnlyOlder := by
  unfold Column.written Column.default? Column.OnlyOlder
  cases column.columnDefault with
  | some policy => simp
  | none => cases column.olderDefault <;> simp

theorem Table.column?_written (table : Table) (name : String) :
    table.written.column? name = (table.column? name).map Column.written :=
  List.find?_map

/-- Every policy bears the name that it is known by, if it is a known one. -/
def ColumnDefault.Readable (policy : ColumnDefault) : Prop := ofText policy.text = policy

theorem ColumnDefault.readable_ofText (text : String) : (ofText text).Readable := by
  unfold Readable ofText
  split
  · rfl
  · split
    · rfl
    · split
      · rfl
      · rename_i hGuid hCreated hUpdated
        simp only [ColumnDefault.text, hGuid, hCreated, hUpdated, if_false]

theorem ColumnDefault.readable_of_optional {slot : Option Json} {found : Option ColumnDefault}
    (h : Json.optional ofJson? slot = some found) : ∀ policy ∈ found, policy.Readable := by
  unfold Json.optional at h
  split at h
  · cases h
    nofun
  · cases h
    nofun
  · rename_i v _
    obtain ⟨policy, hPolicy, rfl⟩ := Option.map_eq_some_iff.mp h
    obtain ⟨text, -, rfl⟩ := Option.map_eq_some_iff.mp hPolicy
    rintro _ ⟨⟩
    exact readable_ofText text

theorem DataType.ofText?_text (dataType : DataType) : ofText? dataType.text = some dataType := by
  cases dataType <;> rfl

namespace Column

theorem ofJson?_toJson {column : Column} (h : ∀ policy ∈ column.columnDefault, policy.Readable) :
    ofJson? column.toJson = some column.written := by
  have hSlots : column.toJson.slots [["name"], ["storageName", "dbName", "colSql"],
      ["columnDefault"], ["default"], ["required"], ["dataType"]] =
      some [some (.string column.name), some (.string column.storageName),
        column.columnDefault.map fun d => .string d.text, none, some (.bool column.required),
        column.dataType.map fun t => .string t.text] :=
    Json.slots_object (by simp [Json.given_cons, Json.given_append, Json.given_toList])
  have hDefault : Json.optional ColumnDefault.ofJson?
      (column.columnDefault.map fun d => Json.string d.text) = some column.columnDefault :=
    Json.optional_written fun policy hPolicy => ⟨nofun, congrArg some (h policy hPolicy)⟩
  have hDataType : Json.optional DataType.ofJson?
      (column.dataType.map fun t => Json.string t.text) = some column.dataType :=
    Json.optional_written fun dataType _ => ⟨nofun, dataType.ofText?_text⟩
  unfold ofJson?
  rw [hSlots]
  simp only [Option.bind_eq_bind, Option.bind_some, hDefault, hDataType]
  rfl

theorem readable_of_ofJson? {j : Json} {column : Column} (h : ofJson? j = some column) :
    ∀ policy ∈ column.columnDefault, policy.Readable := by
  unfold ofJson? at h
  obtain ⟨slots, -, h⟩ := Option.bind_eq_some_iff.mp h
  split at h
  · rename_i name storageName columnDefault olderDefault required dataType
    obtain ⟨_, -, h⟩ := Option.bind_eq_some_iff.mp h
    obtain ⟨_, -, h⟩ := Option.bind_eq_some_iff.mp h
    obtain ⟨found, hFound, h⟩ := Option.bind_eq_some_iff.mp h
    obtain ⟨_, -, h⟩ := Option.bind_eq_some_iff.mp h
    obtain ⟨_, -, h⟩ := Option.bind_eq_some_iff.mp h
    obtain ⟨_, -, h⟩ := Option.bind_eq_some_iff.mp h
    cases h
    exact ColumnDefault.readable_of_optional hFound
  · cases h

end Column

namespace JoinPair

theorem ofJson?_toJson (pair : JoinPair) : ofJson? pair.toJson = some pair := by
  have hSlots : pair.toJson.slots [["from"], ["fromText"], ["to"]] =
      some [pair.source.map Json.string, pair.constant.map Json.string,
        some (.string pair.target)] :=
    Json.slots_object
      (by simp [Json.given_cons, Json.given_nil, Json.given_append, Json.given_toList])
  have hText (part : Option String) :
      Json.optional Json.string? (part.map Json.string) = some part :=
    Json.optional_written fun text _ => ⟨nofun, rfl⟩
  unfold ofJson?
  rw [hSlots]
  simp only [Option.bind_eq_bind, Option.bind_some, hText]
  rfl

end JoinPair

namespace Join

theorem ofJson?_toJson (join : Join) : ofJson? join.toJson = some join := by
  have hSlots : join.toJson.slots [["name"], ["table"], ["columns"]] =
      some [some (.string join.name), some (.string join.table),
        some (.array (join.pairs.map JoinPair.toJson))] :=
    Json.slots_object (by simp [Json.given_cons, Json.given_nil])
  have hPairs : Json.listOf JoinPair.ofJson? (some (.array (join.pairs.map JoinPair.toJson))) =
      some (join.pairs.map id) := Json.listOf_written fun pair _ => pair.ofJson?_toJson
  rw [List.map_id] at hPairs
  unfold ofJson?
  rw [hSlots]
  simp only [Option.bind_eq_bind, Option.bind_some, hPairs]
  rfl

end Join

namespace Table

/-- The columns bear defaults that are read as what they were written for. -/
def Readable (table : Table) : Prop :=
  ∀ column ∈ table.columns, ∀ policy ∈ column.columnDefault, policy.Readable

theorem ofJson?_toJson {table : Table} (h : table.Readable) :
    ofJson? table.toJson = some table.written := by
  have hSlots : table.toJson.slots [["name"], ["storageName", "dbName"], ["columns"],
      ["primaryKey", "primaryIndex"], ["joins"]] =
      some [some (.string table.name), some (.string table.storageName),
        some (.array (table.columns.map Column.toJson)),
        some ((table.primaryKey.map Json.string).getD .null),
        some (.array (table.joins.map Join.toJson))] :=
    Json.slots_object (by simp [Json.given_cons, Json.given_nil])
  have hColumns := Json.listOf_written fun column hColumn =>
    Column.ofJson?_toJson (h column hColumn)
  have hKey : Json.optional Json.string? (some ((table.primaryKey.map Json.string).getD .null)) =
      some table.primaryKey := by
    cases table.primaryKey <;> rfl
  have hJoins : Json.listOf Join.ofJson? (some (.array (table.joins.map Join.toJson))) =
      some (table.joins.map id) := Json.listOf_written fun join _ => join.ofJson?_toJson
  rw [List.map_id] at hJoins
  unfold ofJson?
  rw [hSlots]
  simp only [Option.bind_eq_bind, Option.bind_some, hColumns, hKey, hJoins]
  rfl

theorem readable_of_ofJson? {j : Json} {table : Table} (h : ofJson? j = some table) :
    table.Readable := by
  unfold ofJson? at h
  obtain ⟨slots, -, h⟩ := Option.bind_eq_some_iff.mp h
  split at h
  · obtain ⟨_, -, h⟩ := Option.bind_eq_some_iff.mp h
    obtain ⟨_, -, h⟩ := Option.bind_eq_some_iff.mp h
    obtain ⟨columns, hColumns, h⟩ := Option.bind_eq_some_iff.mp h
    obtain ⟨_, -, h⟩ := Option.bind_eq_some_iff.mp h
    obtain ⟨_, -, h⟩ := Option.bind_eq_some_iff.mp h
    cases h
    intro column hColumn
    obtain ⟨j, hRead⟩ := Json.exists_of_listOf hColumns column hColumn
    exact Column.readable_of_ofJson? hRead
  · cases h

end Table

theorem Column.reread_toJson (room : Nat) (column : Column) :
    reread (room + 1) column.toJson = column.toJson := by
  simp only [toJson, Json.rereadMembers_append, Json.rereadMembers_toList, rereadMembers, reread]

theorem JoinPair.reread_toJson (room : Nat) (pair : JoinPair) :
    reread (room + 1) pair.toJson = pair.toJson := by
  simp only [toJson, Json.rereadMembers_append, Json.rereadMembers_toList, rereadMembers, reread]

theorem Join.reread_toJson (room : Nat) (join : Join) :
    reread (room + 3) join.toJson = join.toJson := by
  simp only [toJson, reread, rereadMembers, Json.rereadItems_map (JoinPair.reread_toJson room)]

theorem Table.reread_toJson (room : Nat) (table : Table) :
    reread (room + 5) table.toJson = table.toJson := by
  have hKey (room : Nat) : reread room ((table.primaryKey.map Json.string).getD .null) =
      (table.primaryKey.map Json.string).getD .null := by
    cases table.primaryKey <;> rfl
  simp only [toJson, reread, rereadMembers, hKey,
    Json.rereadItems_map (Column.reread_toJson (room + 2)),
    Json.rereadItems_map (Join.reread_toJson room)]

theorem Table.read?_toJson_text {table : Table} (h : table.Readable) :
    (Json.read? table.toJson.text).bind ofJson? = some table.written := by
  rw [Json.read?_text, Table.reread_toJson 122, Option.bind_some, ofJson?_toJson h]

theorem Table.alike_written {table : Table}
    (h : ∀ column, table.column? column.name = some column → ¬ column.OnlyOlder) :
    table.Alike table.written where
  name := rfl
  storageName := rfl
  primaryKey := rfl
  joins := rfl
  column? name := by
    rw [table.column?_written]
    cases hColumn : table.column? name with
    | none => exact .none
    | some column =>
      have hName : column.name = name := by simpa using List.find?_some hColumn
      exact .some ⟨rfl, rfl, rfl, rfl,
        (column.default?_written_iff.mpr (h column (hName ▸ hColumn))).symm⟩

/-- A definition of one field, on a column of its basis table. -/
def probe (table column : String) : Definition :=
  .node { name := some "Probe", basisTable := some table,
          fields := [{ name := "Seen", basisColumn := some column }] } []

def probeField (column : Column) : Field :=
  Compile.fieldOn { name := "Seen", basisColumn := some column.name } 0 (some column)

def probeModel (table : Table) (column : Column) : Model :=
  .node { name := "Probe", basisTable := ⟨table.name, table.storageName⟩,
          fields := [probeField column],
          key := Compile.keyPosition? table [probeField column] } []

theorem compile_probe {table : Table} {column : Column}
    (h : table.column? column.name = some column) :
    ((({} : Compiler).knowing table.name table).compile (probe table.name column.name)).1 =
      .ok (probeModel table column) := by
  have hCatalog : Entries.get? [(table.name, table)] table.name = some table := if_pos rfl
  have hComplete : Compile.missing [(table.name, table)] (probe table.name column.name) = [] := by
    simp only [probe, Compile.missing, Compile.missingOfAll, Compile.entityMissing, hCatalog,
      Compile.stepsMissing, List.append_nil]
  have hSeen : isCodeName "Seen" = true := rfl
  have hProbe : ModelName.ofText "Probe" = .ok ⟨none, "Probe"⟩ := rfl
  have hField : Compile.FieldBound ⟨table, []⟩ { name := "Seen", basisColumn := some column.name }
      (probeField column) := ⟨hSeen, 0, table, some column, rfl, .some h, rfl⟩
  have hEntity : Compile.EntityBound [(table.name, table)] (probe table.name column.name).entity
      table ⟨table, []⟩ (probeModel table column).entity :=
    { name := ⟨_, hProbe⟩
      basisTable := ⟨table.name, rfl, hCatalog⟩
      steps := .nil
      fields := .cons hField .nil
      distinct := List.pairwise_singleton _ _
      order := List.forall_mem_nil _
      filter := .none
      entity_eq := rfl }
  have hBind : Compile.bind [(table.name, table)] (probe table.name column.name) =
      .ok (probeModel table column) := Compile.bind_eq_ok_iff.mpr
    ⟨_, [], Compile.bindEntity_eq_ok_iff.mpr ⟨table, _, hEntity⟩, rfl, rfl⟩
  have hKnown : ({} : Compiler).knowing table.name table =
      { catalog := [(table.name, table)] } := rfl
  rw [hKnown, Compiler.compile, Compile.resolve_of_complete hComplete]
  exact hBind

/-- Every definition compiles to the same against the written table exactly if no column that is
found by its name has a default by the older name only. -/
theorem compile_written_iff (table : Table) :
    (∀ (compiler : Compiler) (name : String) (d : Definition),
      ((compiler.knowing name table.written).compile d).1 =
        ((compiler.knowing name table).compile d).1) ↔
      ∀ column, table.column? column.name = some column → ¬ column.OnlyOlder := by
  constructor
  · intro h column hColumn
    have hWritten : table.written.column? column.written.name = some column.written := by
      rw [table.column?_written, show column.written.name = column.name from rfl, hColumn,
        Option.map_some]
    have hSame := h {} table.name (probe table.name column.name)
    rw [compile_probe hColumn] at hSame
    have hModels := Except.ok.inj ((compile_probe hWritten).symm.trans hSame)
    have hDefaults := congrArg (fun model : Model => model.entity.fields.map (·.columnDefault))
      hModels
    exact column.default?_written_iff.mp (List.cons.inj hDefaults).1
  · intro h compiler name d
    exact (compiler.compile_knowing_alike (table.alike_written h) name d).symm

/-- The column came back, and so did its default, unless that has the older name only. -/
structure Column.Kept (column found : Column) : Prop where
  name : found.name = column.name
  storageName : found.storageName = column.storageName
  required : found.required = column.required
  dataType : found.dataType = column.dataType
  default_iff : found.default? = column.default? ↔ ¬ column.OnlyOlder

theorem Column.kept_written (column : Column) : column.Kept column.written :=
  ⟨rfl, rfl, rfl, rfl, column.default?_written_iff⟩

/-- A table that was read is written and read back with all that it had but the defaults of the
older name. -/
theorem table_read_back {text : String} {table : Table}
    (h : (Json.read? text).bind Table.ofJson? = some table) :
    ∃ back, (Json.read? table.toJson.text).bind Table.ofJson? = some back ∧
      back.name = table.name ∧ back.storageName = table.storageName ∧
      back.primaryKey = table.primaryKey ∧ back.joins = table.joins ∧
      List.Forall₂ Column.Kept table.columns back.columns ∧
      ((∀ (compiler : Compiler) (name : String) (d : Definition),
        ((compiler.knowing name back).compile d).1 = ((compiler.knowing name table).compile d).1) ↔
        ∀ column, table.column? column.name = some column → ¬ column.OnlyOlder) := by
  obtain ⟨j, -, hTable⟩ := Option.bind_eq_some_iff.mp h
  have hColumns : List.Forall₂ Column.Kept table.columns table.written.columns :=
    List.forall₂_map_right_iff.mpr (List.forall₂_same.mpr fun column _ => column.kept_written)
  exact ⟨table.written, Table.read?_toJson_text (Table.readable_of_ofJson? hTable), rfl, rfl, rfl,
    rfl, hColumns, compile_written_iff table⟩

/-- A person with two defaults, of which the second has the older name. -/
def personJson : Json :=
  .object [("name", .string "Person"), ("dbName", .string "person"), ("primaryIndex", .string "ID"),
    ("columns", .array [
      .object [("name", .string "ID"), ("colSql", .string "id"), ("dataType", .string "Integer")],
      .object [("name", .string "Token"), ("dbName", .string "token"),
        ("columnDefault", .string "GUID")],
      .object [("name", .string "Code"), ("storageName", .string "code"),
        ("default", .string "GUID"), ("required", .bool true)]])]

def codeColumn : Column :=
  { name := "Code", storageName := "code", olderDefault := some .guid, required := true }

def person : Table where
  name := "Person"
  storageName := "person"
  primaryKey := some "ID"
  columns := [{ name := "ID", storageName := "id", dataType := some .integer },
    { name := "Token", storageName := "token", columnDefault := some .guid }, codeColumn]

theorem read_personJson : (Json.read? personJson.text).bind Table.ofJson? = some person := by
  rw [Json.read?_text]
  rfl

theorem column?_code : person.column? codeColumn.name = some codeColumn := rfl

theorem person_read_back : (Json.read? personJson.text).bind Table.ofJson? = some person ∧
    ∃ back, (Json.read? person.toJson.text).bind Table.ofJson? = some back ∧
      back.primaryKey = some "ID" ∧ List.Forall₂ Column.Kept person.columns back.columns ∧
      ¬ ∀ (compiler : Compiler) (name : String) (d : Definition),
        ((compiler.knowing name back).compile d).1 =
          ((compiler.knowing name person).compile d).1 := by
  obtain ⟨back, hBack, -, -, hKey, -, hColumns, hCompile⟩ := table_read_back read_personJson
  refine ⟨read_personJson, back, hBack, hKey, hColumns, fun hSame => ?_⟩
  exact hCompile.mp hSame codeColumn column?_code ⟨rfl, nofun⟩

/-- The default by the older name is gone, and a model over its column lacks it. -/
theorem older_default_lost :
    (Json.read? personJson.text).bind Table.ofJson? = some person ∧
      (Json.read? person.toJson.text).bind Table.ofJson? = some person.written ∧
      person.columns.map Column.default? = [none, some .guid, some .guid] ∧
      person.written.columns.map Column.default? = [none, some .guid, none] ∧
      ((({} : Compiler).knowing "Person" person).compile (probe "Person" "Code")).1 =
        .ok (probeModel person codeColumn) ∧
      ((({} : Compiler).knowing "Person" person.written).compile (probe "Person" "Code")).1 =
        .ok (probeModel person.written codeColumn.written) ∧
      (probeField codeColumn).columnDefault = some .guid ∧
      (probeField codeColumn.written).columnDefault = none := by
  obtain ⟨j, -, hTable⟩ := Option.bind_eq_some_iff.mp read_personJson
  have hWritten : person.written.column? codeColumn.written.name = some codeColumn.written := rfl
  exact ⟨read_personJson, Table.read?_toJson_text (Table.readable_of_ofJson? hTable), rfl, rfl,
    compile_probe column?_code, compile_probe hWritten, rfl, rfl⟩

end Schema

end RowTree
