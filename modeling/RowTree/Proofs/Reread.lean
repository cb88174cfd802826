import RowTree.Json.Reader
import RowTree.Json.Slots
import RowTree.Proofs.WrittenTokens

/-!
# Reading what was written

The text of a tree is read as that tree, whatever it holds: what has no value comes back as null, a
number as its text says, and a container that too many others are around comes back without a
value. So many levels as the reader allows are read in full.
-/

namespace RowTree.Json

open ReadState

mutual

/-- What the text of a tree is read as where `room` containers may stand within one another. -/
def reread : Nat → Json → Json
  | _, unreadable | _, null => null
  | _, bool b => bool b
  | _, number n => n.reread
  | _, string s => string s
  | 0, array _ | 0, object _ => unreadable
  | room + 1, array items => array (rereadItems room items)
  | room + 1, object members => object (rereadMembers room members)

def rereadItems : Nat → List Json → List Json
  | _, [] => []
  | room, item :: rest => reread room item :: rereadItems room rest

def rereadMembers : Nat → List (String × Json) → List (String × Json)
  | _, [] => []
  | room, (name, v) :: rest => (name, reread room v) :: rereadMembers room rest

end

mutual

/-- How many containers stand within one another. -/
def depth : Json → Nat
  | array items => itemDepth items + 1
  | object members => memberDepth members + 1
  | _ => 0

def itemDepth : List Json → Nat
  | [] => 0
  | item :: rest => max (depth item) (itemDepth rest)

def memberDepth : List (String × Json) → Nat
  | [] => 0
  | (_, v) :: rest => max (depth v) (memberDepth rest)

end

theorem rereadMembers_append (room : Nat) (front rest : List (String × Json)) :
    rereadMembers room (front ++ rest) = rereadMembers room front ++ rereadMembers room rest := by
  induction front with
  | nil => rfl
  | cons member front ih =>
    rw [List.cons_append, rereadMembers, rereadMembers, ih, List.cons_append]

/-- A member for a part that may be missing. -/
theorem rereadMembers_toList {α : Type} (room : Nat) (name : String) (f : α → Json)
    (part : Option α) : rereadMembers room (part.map fun x => (name, f x)).toList =
      (part.map fun x => (name, reread room (f x))).toList := by
  cases part <;> rfl

theorem memberDepth_append (front rest : List (String × Json)) :
    memberDepth (front ++ rest) = max (memberDepth front) (memberDepth rest) := by
  induction front with
  | nil => exact (Nat.zero_max _).symm
  | cons member front ih => rw [List.cons_append, memberDepth, memberDepth, ih, Nat.max_assoc]

variable {depth : Nat} {stack : List Frame} {phase : Phase}

theorem run_append (state : ReadState) (ts us : List Token) :
    state.run depth (ts ++ us) = (state.run depth ts).bind (·.run depth us) := by
  induction ts generalizing state with
  | nil => rfl
  | cons t ts ih =>
    rw [List.cons_append, run, run, Option.bind_assoc]
    congr 1
    funext next
    exact ih next

theorem run_singleton (state : ReadState) (t : Token) : state.run depth [t] = state.step depth t :=
  Option.bind_fun_some _

/-- A container has its value if so many others are around it that there is room for it. -/
theorem close_eq (depth : Nat) (around : List Frame) (v : Option Json) :
    close depth around v =
      complete around (if around.length ≤ depth then v.getD .unreadable else .unreadable) := by
  rw [close]
  congr 1
  simp only [List.isEmpty_iff, List.drop_eq_nil_iff]

theorem closeArray_reverse (depth : Nat) (items : List Json) :
    closeArray depth stack (rereadItems (depth - stack.length) items).reverse =
      complete stack (reread (depth + 1 - stack.length) (.array items)) := by
  rw [closeArray, close_eq, List.reverse_reverse]
  split
  · rw [show depth + 1 - stack.length = depth - stack.length + 1 by omega, reread]
    rfl
  · rw [show depth + 1 - stack.length = 0 by omega, reread]

def nameFound (member : String × Json) : Option String × Json := (some member.1, member.2)

theorem mapM_named? (members : List (String × Json)) :
    (members.map nameFound).mapM named? = some members := by
  rw [List.mapM_map]
  exact (List.mapM_pure (m := Option)).trans (congrArg some (List.map_id _))

theorem closeObject_reverse (depth : Nat) (members : List (String × Json)) :
    closeObject depth stack ((rereadMembers (depth - stack.length) members).map nameFound).reverse =
      complete stack (reread (depth + 1 - stack.length) (.object members)) := by
  rw [closeObject, close_eq, List.reverse_reverse, mapM_named?]
  split
  · rw [show depth + 1 - stack.length = depth - stack.length + 1 by omega, reread]
    rfl
  · rw [show depth + 1 - stack.length = 0 by omega, reread]

theorem scalar_eq (h : takesValue phase = true) (v : Json) :
    scalar ⟨stack, phase⟩ v = complete stack v := if_pos h

theorem step_nullToken (h : takesValue phase = true) :
    step depth ⟨stack, phase⟩ nullToken = complete stack .null := scalar_eq h _

theorem step_token (h : takesValue phase = true) (n : Number) :
    step depth ⟨stack, phase⟩ n.token = complete stack n.reread := by
  cases n with
  | int n => exact scalar_eq h _
  | nat n => exact scalar_eq h _
  | float x =>
    rw [Number.token, Number.reread]
    split
    · exact scalar_eq h _
    · exact step_nullToken h

theorem step_string (h : takesValue phase = true) (s : String) :
    step depth ⟨stack, phase⟩ (.string (some s)) = complete stack (.string s) := by
  cases phase <;> first | exact scalar_eq h _ | cases h

/-- The phase after the values of a container, which was `first` before them. -/
def restPhase {α : Type} (first : Phase) : List α → Phase
  | [] => first
  | _ :: _ => .commaOrEnd

theorem step_closeArray (items : List Json) (stack : List Frame) :
    step depth ⟨.array (rereadItems (depth - stack.length) items).reverse :: stack,
      restPhase .itemOrEnd items⟩ .closeArray =
      complete stack (reread (depth + 1 - stack.length) (.array items)) := by
  rw [← closeArray_reverse]
  cases items <;> rfl

theorem step_closeObject (members : List (String × Json)) (stack : List Frame) :
    step depth ⟨.object ((rereadMembers (depth - stack.length) members).map nameFound).reverse ::
      stack, restPhase .nameOrEnd members⟩ .closeObject =
      complete stack (reread (depth + 1 - stack.length) (.object members)) := by
  rw [← closeObject_reverse]
  cases members <;> rfl

mutual

theorem run_written (j : Json) {phase : Phase} (stack : List Frame)
    (h : takesValue phase = true) :
    run depth ⟨stack, phase⟩ (written j) =
      complete stack (j.reread (depth + 1 - stack.length)) := by
  cases j with
  | unreadable =>
    rw [written, run_singleton, step_nullToken h, reread]
  | null =>
    rw [written, run_singleton, step_nullToken h, reread]
  | bool b =>
    cases b <;> rw [written, run_singleton, reread] <;> exact scalar_eq h _
  | number n => rw [written, run_singleton, step_token h, reread]
  | string s => rw [written, run_singleton, step_string h, reread]
  | array items =>
    have hOpen : step depth ⟨stack, phase⟩ .openArray = some ⟨.array [] :: stack, .itemOrEnd⟩ :=
      if_pos h
    rw [written, run, hOpen, Option.bind_some, run_append,
      run_writtenItems items [] stack rfl, List.append_nil, Option.bind_some, run_singleton,
      step_closeArray]
  | object members =>
    have hOpen : step depth ⟨stack, phase⟩ .openObject = some ⟨.object [] :: stack, .nameOrEnd⟩ :=
      if_pos h
    rw [written, run, hOpen, Option.bind_some, run_append,
      run_writtenMembers members [] stack (.inl rfl), List.append_nil, Option.bind_some,
      run_singleton, step_closeObject]

theorem run_writtenItems (items before : List Json) {phase : Phase} (stack : List Frame)
    (h : takesValue phase = true) :
    run depth ⟨.array before :: stack, phase⟩ ([Token.comma].intercalate (writtenItems items)) =
      some ⟨.array ((rereadItems (depth - stack.length) items).reverse ++ before) :: stack,
        restPhase phase items⟩ := by
  cases items with
  | nil => rfl
  | cons item rest =>
    have hItem : run depth ⟨.array before :: stack, phase⟩ (written item) =
        some ⟨.array (reread (depth - stack.length) item :: before) :: stack, .commaOrEnd⟩ := by
      rw [run_written item _ h, List.length_cons, Nat.add_sub_add_right]
      rfl
    rw [rereadItems, List.reverse_cons, List.append_assoc]
    cases rest with
    | nil =>
      rw [writtenItems, writtenItems, List.intercalate_singleton, hItem]
      rfl
    | cons second more =>
      have hComma : step depth
          ⟨.array (reread (depth - stack.length) item :: before) :: stack, .commaOrEnd⟩ .comma =
          some ⟨.array (reread (depth - stack.length) item :: before) :: stack, .value⟩ := rfl
      rw [writtenItems, writtenItems, List.intercalate_cons_cons, ← writtenItems,
        List.append_assoc, run_append, hItem, Option.bind_some, run_append, run_singleton, hComma,
        Option.bind_some, run_writtenItems (second :: more) _ stack rfl]
      rfl

theorem run_writtenMembers (members : List (String × Json)) (before : List (Option String × Json))
    {phase : Phase} (stack : List Frame) (h : phase = .nameOrEnd ∨ phase = .name) :
    run depth ⟨.object before :: stack, phase⟩
        ([Token.comma].intercalate (writtenMembers members)) =
      some ⟨.object (((rereadMembers (depth - stack.length) members).map nameFound).reverse ++
        before) :: stack, restPhase phase members⟩ := by
  cases members with
  | nil => rfl
  | cons member rest =>
    obtain ⟨name, v⟩ := member
    have hName : step depth ⟨.object before :: stack, phase⟩ (.string (some name)) =
        some ⟨.object before :: stack, .colon (some name)⟩ := by
      rcases h with rfl | rfl <;> rfl
    have hColon : step depth ⟨.object before :: stack, .colon (some name)⟩ .colon =
        some ⟨.waiting before (some name) :: stack, .value⟩ := rfl
    have hMember : run depth ⟨.object before :: stack, phase⟩
        (.string (some name) :: .colon :: written v) =
        some ⟨.object ((some name, reread (depth - stack.length) v) :: before) :: stack,
          .commaOrEnd⟩ := by
      rw [run, hName, Option.bind_some, run, hColon, Option.bind_some, run_written v _ rfl,
        List.length_cons, Nat.add_sub_add_right]
      rfl
    rw [rereadMembers, List.map_cons, List.reverse_cons, List.append_assoc]
    cases rest with
    | nil =>
      rw [writtenMembers, writtenMembers, List.intercalate_singleton, hMember]
      rfl
    | cons second more =>
      have hComma : step depth
          ⟨.object ((some name, reread (depth - stack.length) v) :: before) :: stack, .commaOrEnd⟩
          .comma =
          some ⟨.object ((some name, reread (depth - stack.length) v) :: before) :: stack,
            .name⟩ := rfl
      rw [writtenMembers, writtenMembers, List.intercalate_cons_cons, ← writtenMembers,
        List.append_assoc, run_append, hMember, Option.bind_some, run_append, run_singleton, hComma,
        Option.bind_some, run_writtenMembers (second :: more) _ stack (.inr rfl)]
      rfl

end

/-- Whatever is written can be read. -/
theorem readWithin?_text (depth : Nat) (j : Json) :
    readWithin? depth j.text = some (j.reread (depth + 1)) := by
  have hRun : run depth ⟨[], .value⟩ (written j) = complete [] (j.reread (depth + 1)) :=
    run_written j [] rfl
  rw [readWithin?, tokens_text]
  simp only [Option.bind_eq_bind, Option.bind_some, hRun]
  rfl

theorem read?_text (j : Json) : read? j.text = some (j.reread 127) := readWithin?_text nesting j

theorem given_nil (spellings : List String) : given spellings [] = [] := rfl

theorem given_cons (spellings : List String) (name : String) (v : Json)
    (rest : List (String × Json)) : given spellings ((name, v) :: rest) =
      (if spellings.contains name then [v] else []) ++ given spellings rest := by
  rw [given, List.filterMap_cons]
  cases spellings.contains name <;> rfl

theorem given_toList {α : Type} (spellings : List String) (name : String) (f : α → Json)
    (part : Option α) : given spellings (part.map fun x => (name, f x)).toList =
      if spellings.contains name then (part.map f).toList else [] := by
  cases part with
  | none => exact (ite_self _).symm
  | some x => exact (given_cons spellings name (f x) []).trans (List.append_nil _)

theorem given_append (spellings : List String) (front rest : List (String × Json)) :
    given spellings (front ++ rest) = given spellings front ++ given spellings rest :=
  List.filterMap_append

/-- If every field is given at most once, in some spelling, its slot holds what is given. -/
theorem slots_object {fields : List (List String)} {members : List (String × Json)}
    {found : List (Option Json)}
    (h : List.Forall₂ (fun spellings v => given spellings members = v.toList) fields found) :
    (object members).slots fields = some found := by
  rw [slots]
  induction h with
  | nil => rfl
  | @cons spellings v _ _ hGiven _ ih =>
    rw [List.mapM_cons, ih, hGiven]
    cases v <;> rfl

end RowTree.Json
