import RowTree.Json

/-!
# Values in JSON

A value is written as the plain JSON value of its kind and read from it. An
object is no value.
-/

namespace RowTree.Value

mutual

def toJson : Value → Json
  | null => .null
  | bool b => .bool b
  | int n => .number (.int n)
  | nat n => .number (.nat n)
  | float x => .number (.float x)
  | string s => .string s
  | list items => .array (toJsons items)

def toJsons : List Value → List Json
  | [] => []
  | v :: rest => toJson v :: toJsons rest

end

def ofNumber : Json.Number → Value
  | .int n => int n
  | .nat n => nat n
  | .float x => float x

mutual

def ofJson? : Json → Option Value
  | .null => some null
  | .bool b => some (bool b)
  | .number n => some (ofNumber n)
  | .string s => some (string s)
  | .array items => (ofJsons? items).map list
  | .object _ | .unreadable => none

def ofJsons? : List Json → Option (List Value)
  | [] => some []
  | j :: rest => do
    let v ← ofJson? j
    let vs ← ofJsons? rest
    some (v :: vs)

end

end RowTree.Value
