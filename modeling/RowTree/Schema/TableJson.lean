import RowTree.Json.Slots
import RowTree.Schema.Table

/-!
# Tables in JSON

Tables are read from artifacts, in which some fields have older spellings, and
are written with the newer ones. The older default of a column is read and
never written.
-/

namespace RowTree.Schema

def ColumnDefault.ofJson? (j : Json) : Option ColumnDefault := j.string?.map ofText

def DataType.ofJson? : Json → Option DataType := Json.word? ofText?

namespace Column

def ofJson? (j : Json) : Option Column := do
  match ← j.slots [["name"], ["storageName", "dbName", "colSql"], ["columnDefault"], ["default"],
      ["required"], ["dataType"]] with
  | [name, storageName, columnDefault, olderDefault, required, dataType] =>
    some {
      name := ← Json.required Json.string? name
      storageName := ← Json.required Json.string? storageName
      columnDefault := ← Json.optional ColumnDefault.ofJson? columnDefault
      olderDefault := ← Json.optional ColumnDefault.ofJson? olderDefault
      required := ← Json.orElse false Json.bool? required
      dataType := ← Json.optional DataType.ofJson? dataType }
  | _ => none

def toJson (column : Column) : Json :=
  .object ([("name", .string column.name), ("storageName", .string column.storageName)]
    ++ (column.columnDefault.map fun d => ("columnDefault", Json.string d.text)).toList
    ++ [("required", .bool column.required)]
    ++ (column.dataType.map fun t => ("dataType", Json.string t.text)).toList)

end Column

namespace JoinPair

def ofJson? (j : Json) : Option JoinPair := do
  match ← j.slots [["from"], ["fromText"], ["to"]] with
  | [source, constant, target] =>
    some {
      source := ← Json.optional Json.string? source
      constant := ← Json.optional Json.string? constant
      target := ← Json.required Json.string? target }
  | _ => none

def toJson (pair : JoinPair) : Json :=
  .object ((pair.source.map fun s => ("from", Json.string s)).toList
    ++ (pair.constant.map fun s => ("fromText", Json.string s)).toList
    ++ [("to", .string pair.target)])

end JoinPair

namespace Join

def ofJson? (j : Json) : Option Join := do
  match ← j.slots [["name"], ["table"], ["columns"]] with
  | [name, table, pairs] =>
    some {
      name := ← Json.required Json.string? name
      table := ← Json.required Json.string? table
      pairs := ← Json.listOf JoinPair.ofJson? pairs }
  | _ => none

def toJson (join : Join) : Json :=
  .object [("name", .string join.name), ("table", .string join.table),
    ("columns", .array (join.pairs.map JoinPair.toJson))]

end Join

namespace Table

def ofJson? (j : Json) : Option Table := do
  match ← j.slots [["name"], ["storageName", "dbName"], ["columns"],
      ["primaryKey", "primaryIndex"], ["joins"]] with
  | [name, storageName, columns, primaryKey, joins] =>
    some {
      name := ← Json.required Json.string? name
      storageName := ← Json.required Json.string? storageName
      columns := ← Json.listOf Column.ofJson? columns
      primaryKey := ← Json.optional Json.string? primaryKey
      joins := ← Json.listOf Join.ofJson? joins }
  | _ => none

def toJson (table : Table) : Json :=
  .object [("name", .string table.name), ("storageName", .string table.storageName),
    ("columns", .array (table.columns.map Column.toJson)),
    ("primaryKey", (table.primaryKey.map Json.string).getD .null),
    ("joins", .array (table.joins.map Join.toJson))]

def listOfJson? (j : Json) : Option (List Table) := j.array?.bind (·.mapM ofJson?)

end Table

end RowTree.Schema
