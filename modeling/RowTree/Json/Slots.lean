import RowTree.Json

/-!
# Structures in JSON

A structure is an object with a member per field, or an array of its fields in
order. Members that it does not know are ignored. A field may have several
spellings; to give one field twice, in whatever spelling, is an error.
-/

namespace RowTree.Json

def given (spellings : List String) (members : List (String × Json)) : List Json :=
  members.filterMap fun member => if spellings.contains member.1 then some member.2 else none

/-- What is given for each field, or nothing if a field is given twice or an
array has more items than there are fields. -/
def slots (fields : List (List String)) : Json → Option (List (Option Json))
  | object members =>
    fields.mapM fun spellings =>
      match given spellings members with
      | [] => some none
      | [v] => some (some v)
      | _ => none
  | array items =>
    if items.length ≤ fields.length then
      some ((List.range fields.length).map fun i => items[i]?)
    else none
  | _ => none

variable {α : Type}

def required (read : Json → Option α) (slot : Option Json) : Option α := slot.bind read

def orElse (default : α) (read : Json → Option α) : Option Json → Option α
  | none => some default
  | some v => read v

def optional (read : Json → Option α) : Option Json → Option (Option α)
  | none | some .null => some none
  | some v => (read v).map some

/-- A list; it is empty when it is not there. -/
def listOf (read : Json → Option α) (slot : Option Json) : Option (List α) :=
  orElse [] (fun v => v.array?.bind (·.mapM read)) slot

/-- A word out of a fixed list: a string, or an object whose only member is
named so and is null. -/
def word? (meaning : String → Option α) : Json → Option α
  | string s => meaning s
  | object [(name, .null)] => meaning name
  | _ => none

end RowTree.Json
