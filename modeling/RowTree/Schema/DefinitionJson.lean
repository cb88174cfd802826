import RowTree.Schema.Definition
import RowTree.Schema.TableJson

/-!
# Definitions in JSON
-/

namespace RowTree.Schema

def StepDefinition.ofJson? (j : Json) : Option StepDefinition := do
  match ← j.slots [["name"], ["join"], ["required"], ["previousStep"]] with
  | [name, join, required, previousStep] =>
    some {
      name := ← Json.required Json.string? name
      join := ← Json.optional Json.string? join
      required := ← Json.orElse false Json.bool? required
      previousStep := ← Json.optional Json.string? previousStep }
  | _ => none

def FieldDefinition.ofJson? (j : Json) : Option FieldDefinition := do
  match ← j.slots [["name"], ["basisColumn"], ["step"], ["updateable"], ["required"],
      ["columnDefault"], ["dataType"]] with
  | [name, basisColumn, step, updateable, required, columnDefault, dataType] =>
    some {
      name := ← Json.required Json.string? name
      basisColumn := ← Json.optional Json.string? basisColumn
      step := ← Json.optional Json.string? step
      updateable := ← Json.orElse true Json.bool? updateable
      required := ← Json.orElse false Json.bool? required
      columnDefault := ← Json.optional ColumnDefault.ofJson? columnDefault
      dataType := ← Json.optional DataType.ofJson? dataType }
  | _ => none

def directionOfWord? : String → Option Sql.Direction
  | "ASC" | "asc" => some .ascending
  | "DESC" | "desc" => some .descending
  | _ => none

def OrderDefinition.ofJson? (j : Json) : Option OrderDefinition := do
  match ← j.slots [["fieldName"], ["direction"]] with
  | [fieldName, direction] =>
    some {
      fieldName := ← Json.required Json.string? fieldName
      direction := ← Json.orElse .ascending (Json.word? directionOfWord?) direction }
  | _ => none

def LinkDefinition.ofJson? (j : Json) : Option LinkDefinition := do
  match ← j.slots [["parentField"], ["childField"]] with
  | [parentField, childField] =>
    some {
      parentField := ← Json.required Json.string? parentField
      childField := ← Json.required Json.string? childField }
  | _ => none

namespace Definition

def spellings : List (List String) :=
  [["name"], ["basisTable"], ["steps"], ["fields"], ["orderBy"], ["filter"], ["limit"],
    ["children"], ["parentLink"], ["foreignKeys"]]

def assemble (slots : Option (List (Option Json))) (children : Option (List Definition)) :
    Option Definition := do
  match ← slots with
  | [name, basisTable, steps, fields, orderBy, filter, limit, _, parentLink, foreignKeys] =>
    let entity : EntityDefinition := {
      name := ← Json.optional Json.string? name
      basisTable := ← Json.optional Json.string? basisTable
      steps := ← Json.listOf StepDefinition.ofJson? steps
      fields := ← Json.listOf FieldDefinition.ofJson? fields
      orderBy := ← Json.listOf OrderDefinition.ofJson? orderBy
      filter := ← Json.optional Json.string? filter
      limit := ← Json.optional Json.natural? limit
      parentLink := ← Json.optional LinkDefinition.ofJson? parentLink
      foreignKeys := ← Json.listOf LinkDefinition.ofJson? foreignKeys }
    some (node entity (← children))
  | _ => none

mutual

def ofJson? : Json → Option Definition
  | .object members =>
    assemble ((Json.object members).slots spellings) (childrenOfMembers members)
  | .array items => assemble ((Json.array items).slots spellings) (childrenOfItems 7 items)
  | _ => none

def ofJsons? : List Json → Option (List Definition)
  | [] => some []
  | j :: rest => do
    let child ← ofJson? j
    let more ← ofJsons? rest
    some (child :: more)

def childList? : Json → Option (List Definition)
  | .array items => ofJsons? items
  | _ => none

def childrenOfMembers : List (String × Json) → Option (List Definition)
  | [] => some []
  | (name, j) :: rest => if name = "children" then childList? j else childrenOfMembers rest

def childrenOfItems : Nat → List Json → Option (List Definition)
  | _, [] => some []
  | 0, j :: _ => childList? j
  | n + 1, _ :: rest => childrenOfItems n rest

end

end Definition

end RowTree.Schema
