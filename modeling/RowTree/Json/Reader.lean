import RowTree.Json.Token

/-!
# Reading JSON

The tokens are taken one after the other by a machine whose stack holds the
containers that are open. The text is one value. A container has a value only
if not too many others are around it and each of its names is a string.
-/

namespace RowTree.Json

/-- An open container with what it holds so far, newest first. An object that
waits for a value knows the value's name. -/
inductive Frame where
  | array (items : List Json)
  | object (members : List (Option String × Json))
  | waiting (members : List (Option String × Json)) (name : Option String)

inductive Phase where
  | value
  | itemOrEnd
  | nameOrEnd
  | name
  | colon (name : Option String)
  | commaOrEnd
  | finished (v : Json)

structure ReadState where
  stack : List Frame
  phase : Phase

namespace ReadState

def complete (stack : List Frame) (v : Json) : Option ReadState :=
  match stack with
  | [] => some ⟨[], .finished v⟩
  | .array items :: rest => some ⟨.array (v :: items) :: rest, .commaOrEnd⟩
  | .waiting members name :: rest => some ⟨.object ((name, v) :: members) :: rest, .commaOrEnd⟩
  | .object _ :: _ => none

def takesValue : Phase → Bool
  | .value | .itemOrEnd => true
  | _ => false

def scalar (state : ReadState) (v : Json) : Option ReadState :=
  if takesValue state.phase then complete state.stack v else none

def nest (state : ReadState) (frame : Frame) (phase : Phase) : Option ReadState :=
  if takesValue state.phase then some ⟨frame :: state.stack, phase⟩ else none

def close (depth : Nat) (around : List Frame) (v : Option Json) : Option ReadState :=
  complete around (if (around.drop depth).isEmpty then v.getD .unreadable else .unreadable)

def closeArray (depth : Nat) (around : List Frame) (items : List Json) : Option ReadState :=
  close depth around (some (.array items.reverse))

def named? (member : Option String × Json) : Option (String × Json) := member.1.map (·, member.2)

def closeObject (depth : Nat) (around : List Frame) (members : List (Option String × Json)) :
    Option ReadState :=
  close depth around ((members.reverse.mapM named?).map .object)

def step (depth : Nat) (state : ReadState) (token : Token) : Option ReadState :=
  match token with
  | .openArray => state.nest (.array []) .itemOrEnd
  | .openObject => state.nest (.object []) .nameOrEnd
  | .closeArray =>
    match state.phase, state.stack with
    | .itemOrEnd, .array items :: rest => closeArray depth rest items
    | .commaOrEnd, .array items :: rest => closeArray depth rest items
    | _, _ => none
  | .closeObject =>
    match state.phase, state.stack with
    | .nameOrEnd, .object members :: rest => closeObject depth rest members
    | .commaOrEnd, .object members :: rest => closeObject depth rest members
    | _, _ => none
  | .comma =>
    match state.phase, state.stack with
    | .commaOrEnd, .array items :: rest => some ⟨.array items :: rest, .value⟩
    | .commaOrEnd, .object members :: rest => some ⟨.object members :: rest, .name⟩
    | _, _ => none
  | .colon =>
    match state.phase, state.stack with
    | .colon name, .object members :: rest => some ⟨.waiting members name :: rest, .value⟩
    | _, _ => none
  | .string s =>
    match state.phase with
    | .nameOrEnd | .name => some ⟨state.stack, .colon s⟩
    | _ => state.scalar (leaf string s)
  | .number n => state.scalar (leaf number n)
  | .word letters =>
    if letters = ['n', 'u', 'l', 'l'] then state.scalar .null
    else if letters = ['t', 'r', 'u', 'e'] then state.scalar (.bool true)
    else if letters = ['f', 'a', 'l', 's', 'e'] then state.scalar (.bool false)
    else none

def run (depth : Nat) (state : ReadState) : List Token → Option ReadState
  | [] => some state
  | token :: rest => (state.step depth token).bind fun next => next.run depth rest

end ReadState

/-- The value that a text is, where a container with more than `depth` others
around it has none. -/
def readWithin? (depth : Nat) (text : String) : Option Json := do
  let state ← ReadState.run depth ⟨[], .value⟩ (← tokens text)
  match state.phase with
  | .finished v => some v
  | _ => none

def nesting : Nat := 126

def read? (text : String) : Option Json := readWithin? nesting text

end RowTree.Json
