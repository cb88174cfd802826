import RowTree.Json.Slots
import RowTree.Row
import RowTree.Value.Json

/-!
# Rows in JSON

A row is written as an object with its data always and every other part only
when it is there. In the data and among the children a name that is read twice
keeps its first place and its last value.
-/

namespace RowTree

def RowState.ofWord? : String → Option RowState
  | "INSERTED" => some inserted
  | "UPDATED" => some updated
  | "DELETED" => some deleted
  | _ => none

namespace Row

def spellings : List (List String) :=
  [["data"], ["id"], ["foreignKey"], ["state"], ["tempID"], ["children"]]

def recordOfJson? (j : Json) : Option Record := do
  let pairs ← (← j.object?).mapM fun member => do
    let v ← Value.ofJson? member.2
    some (member.1, v)
  some (Entries.ofPairs pairs)

def recordToJson (record : Record) : Json :=
  .object (record.map fun entry => (entry.1, entry.2.toJson))

def assemble (slots : Option (List (Option Json))) (children : Option (Entries (List Row))) :
    Option Row := do
  match ← slots with
  | [data, id, foreignKey, state, tempId, _] =>
    some {
      data := ← Json.orElse [] recordOfJson? data
      id := ← Json.optional Value.ofJson? id
      foreignKey := ← Json.optional Value.ofJson? foreignKey
      state := ← Json.optional (Json.word? RowState.ofWord?) state
      tempId := ← Json.optional Value.ofJson? tempId
      children := ← children }
  | _ => none

mutual

def ofJson? : Json → Option Row
  | .object members =>
    assemble ((Json.object members).slots spellings) (childrenOfMembers members)
  | .array items => assemble ((Json.array items).slots spellings) (childrenOfItems 5 items)
  | _ => none

def ofJsons? : List Json → Option (List Row)
  | [] => some []
  | j :: rest => do
    let row ← ofJson? j
    let rows ← ofJsons? rest
    some (row :: rows)

def rowList? : Json → Option (List Row)
  | .array items => ofJsons? items
  | _ => none

def rowLists? : List (String × Json) → Option (List (String × List Row))
  | [] => some []
  | (name, j) :: rest => do
    let rows ← rowList? j
    let more ← rowLists? rest
    some ((name, rows) :: more)

def childMap? : Json → Option (Entries (List Row))
  | .object members => (rowLists? members).map Entries.ofPairs
  | _ => none

def childrenOfMembers : List (String × Json) → Option (Entries (List Row))
  | [] => some []
  | (name, j) :: rest => if name = "children" then childMap? j else childrenOfMembers rest

def childrenOfItems : Nat → List Json → Option (Entries (List Row))
  | _, [] => some []
  | 0, j :: _ => childMap? j
  | n + 1, _ :: rest => childrenOfItems n rest

end

def member (name : String) (v : Option Json) : List (String × Json) :=
  match v with
  | some v => [(name, v)]
  | none => []

mutual

def toJson : Row → Json
  | ⟨data, id, foreignKey, state, tempId, children⟩ =>
    .object (("data", recordToJson data) :: member "id" (id.map Value.toJson)
      ++ member "foreignKey" (foreignKey.map Value.toJson)
      ++ member "state" (state.map fun s => .string s.word)
      ++ member "tempID" (tempId.map Value.toJson)
      ++ member "children" (if children.isEmpty then none else some (.object (listsToJson children))))

def toJsons : List Row → List Json
  | [] => []
  | row :: rest => toJson row :: toJsons rest

def listsToJson : List (String × List Row) → List (String × Json)
  | [] => []
  | (name, rows) :: rest => (name, .array (toJsons rows)) :: listsToJson rest

end

end Row

end RowTree
