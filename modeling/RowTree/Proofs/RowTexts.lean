import RowTree.Row.Json
import RowTree.Proofs.Reread

/-!
# Rows through a text

A tree of rows is written as a JSON text and read back. It comes back as it was, in all its parts
and their order, except that an unsigned number that fits a signed one comes back as that. The
reader allows only so many containers within one another, and what is deeper is not read at all.
-/

namespace RowTree

open Json (reread rereadItems rereadMembers)

/-- What is there where there is room for so many containers within one another. -/
def fitting {α : Type} (room depth : Nat) (x : α) : Option α :=
  if depth ≤ room then some x else none

section

variable {α β γ : Type} {room : Nat}

theorem fitting_zero (room : Nat) (x : α) : fitting room 0 x = some x := if_pos (Nat.zero_le room)

theorem fitting_map (room d : Nat) (x : α) (f : α → β) :
    (fitting room d x).map f = fitting room d (f x) := by
  unfold fitting
  split <;> rfl

theorem fitting_bind_some (room d : Nat) (x : α) (f : α → β) :
    ((fitting room d x).bind fun x => some (f x)) = fitting room d (f x) := by
  unfold fitting
  split <;> rfl

theorem fitting_bind {d e : Nat} {x : α} {y : β} {next : α → Option β}
    (h : next x = fitting room e y) : (fitting room d x).bind next = fitting room (max d e) y := by
  unfold fitting at h ⊢
  by_cases hFirst : d ≤ room
  · rw [if_pos hFirst, Option.bind_some, h]
    simp only [Nat.max_le, hFirst, true_and]
  · rw [if_neg hFirst, if_neg (mt (fun hMax => (Nat.max_le.mp hMax).1) hFirst)]
    rfl

theorem fitting_succ (room d : Nat) (x : α) : fitting (room + 1) (d + 1) x = fitting room d x := by
  simp only [fitting, Nat.add_le_add_iff_right]

end

namespace Value

mutual

/-- Unsigned numbers that fit a signed one are such. -/
def narrowed : Value → Value
  | null => null
  | bool b => bool b
  | int n => int n
  | nat n => ofUInt64 n
  | float x => float x
  | string s => string s
  | list items => list (narroweds items)

def narroweds : List Value → List Value
  | [] => []
  | v :: rest => narrowed v :: narroweds rest

end

mutual

/-- Every float in the value is finite, and its JSON number is read as itself. -/
def Readable : Value → Prop
  | float x => x.isFinite = true ∧ x.ReadsBack
  | list items => AllReadable items
  | _ => True

def AllReadable : List Value → Prop
  | [] => True
  | v :: rest => Readable v ∧ AllReadable rest

end

theorem ofNumber_ofInt (n : UInt64) : ofNumber (.ofInt n.toNat) = ofUInt64 n := by
  have hHigh : (n.toNat : Int) < 0x10000000000000000 := by
    have := n.toNat_lt
    omega
  rw [Json.Number.ofInt, ofUInt64]
  by_cases hFits : n.toNat < 0x8000000000000000
  · rw [if_pos (by omega), if_pos hFits, ofNumber, Int64.ofInt_eq_ofNat, ← UInt64.toInt64_ofNat',
      UInt64.ofNat_toNat]
  · rw [if_neg (by omega), if_pos (by omega), if_neg hFits, ofNumber]
    simp

mutual

theorem ofJson?_reread {v : Value} (h : v.Readable) (room : Nat) :
    ofJson? (reread room v.toJson) = fitting room v.toJson.depth v.narrowed := by
  cases v with
  | null => exact (fitting_zero room _).symm
  | bool b => exact (fitting_zero room _).symm
  | int n => exact (fitting_zero room _).symm
  | nat n =>
    rw [toJson, reread, Json.Number.reread, ofJson?, ofNumber_ofInt]
    exact (fitting_zero room _).symm
  | float x =>
    rw [toJson, reread, Json.Number.reread_float h.1 h.2]
    exact (fitting_zero room _).symm
  | string s => exact (fitting_zero room _).symm
  | list items =>
    cases room with
    | zero => rfl
    | succ room =>
      rw [toJson, reread, ofJson?, ofJsons?_reread h room, fitting_map, Json.depth, fitting_succ,
        narrowed]

theorem ofJsons?_reread {vs : List Value} (h : AllReadable vs) (room : Nat) :
    ofJsons? (rereadItems room (toJsons vs)) =
      fitting room (Json.itemDepth (toJsons vs)) (narroweds vs) := by
  cases vs with
  | nil => exact (fitting_zero room _).symm
  | cons v rest =>
    rw [toJsons, rereadItems, ofJsons?, ofJson?_reread h.1 room, ofJsons?_reread h.2 room]
    exact fitting_bind (fitting_bind_some room _ _ _)

end

/-- Only null is read as null. -/
theorem reread_ne_null {v : Value} (h : v.Readable) (hNull : v.isNull = false) (room : Nat) :
    reread room v.toJson ≠ .null := by
  intro hReread
  have hBack := ofJson?_reread h room
  rw [hReread, fitting] at hBack
  split at hBack
  · have hNarrowed := Option.some.inj hBack
    cases v with
    | null => cases hNull
    | nat n =>
      rw [narrowed, ofUInt64] at hNarrowed
      split at hNarrowed <;> cases hNarrowed
    | bool b => cases hNarrowed
    | int n => cases hNarrowed
    | float x => cases hNarrowed
    | string s => cases hNarrowed
    | list items => cases hNarrowed
  · cases hBack

end Value

theorem Entries.ofPairs_of_nodup {α : Type} {entries : Entries α}
    (h : (Entries.names entries).Nodup) : Entries.ofPairs entries = entries := by
  have hFold : ∀ before : Entries α, (Entries.names (before ++ entries)).Nodup →
      entries.foldl (fun m pair => m.set pair.1 pair.2) before = before ++ entries := by
    clear h
    induction entries with
    | nil => exact fun before _ => (List.append_nil before).symm
    | cons entry rest ih =>
      intro before hNames
      have hFresh : entry.1 ∉ Entries.names before := by
        rw [Entries.names, List.map_append, List.nodup_append] at hNames
        exact fun hMem => hNames.2.2 _ hMem _ List.mem_cons_self rfl
      have hMore : before ++ entry :: rest = (before ++ [entry]) ++ rest := by simp
      rw [hMore] at hNames ⊢
      rw [List.foldl_cons, Entries.set_of_not_mem hFresh]
      exact ih _ hNames
  exact hFold [] h

namespace Row

mutual

/-- The row with all its unsigned numbers that fit a signed one as such. -/
def narrowed : Row → Row
  | ⟨data, id, foreignKey, state, tempId, children⟩ =>
    ⟨data.map fun entry => (entry.1, entry.2.narrowed), id.map Value.narrowed,
      foreignKey.map Value.narrowed, state, tempId.map Value.narrowed, narrowedLists children⟩

def narroweds : List Row → List Row
  | [] => []
  | row :: rest => narrowed row :: narroweds rest

def narrowedLists : List (String × List Row) → List (String × List Row)
  | [] => []
  | (name, rows) :: rest => (name, narroweds rows) :: narrowedLists rest

end

/-- A part of a row that is left out when it is not there. A null would be read as none. -/
def ReadablePart (part : Option Value) : Prop := ∀ v ∈ part, v.Readable ∧ v.isNull = false

/-- What a tree of rows needs to be read as it was written. -/
inductive Readable : Row → Prop
  | intro {row : Row} (data_names : (Entries.names row.data).Nodup)
      (data : ∀ entry ∈ row.data, entry.2.Readable) (id : ReadablePart row.id)
      (foreignKey : ReadablePart row.foreignKey) (tempId : ReadablePart row.tempId)
      (child_names : (Entries.names row.children).Nodup)
      (children : ∀ entry ∈ row.children, ∀ child ∈ entry.2, Readable child) : Readable row

/-- The members of the object that a row is written as. -/
def members (data : Json) (id foreignKey state tempId children : Option Json) :
    List (String × Json) :=
  ("data", data) :: member "id" id ++ member "foreignKey" foreignKey
    ++ member "state" state ++ member "tempID" tempId ++ member "children" children

section

variable (data : Json) (id foreignKey state tempId children : Option Json)

theorem member_eq (name : String) (v : Option Json) :
    member name v = (v.map fun j => (name, j)).toList := by
  cases v <;> rfl

theorem given_member (spellings : List String) (name : String) (v : Option Json) :
    Json.given spellings (member name v) =
      if spellings.contains name then v.toList else [] := by
  rw [member_eq]
  simpa using Json.given_toList spellings name (fun j => j) v

theorem slots_members : (Json.object (members data id foreignKey state tempId children)).slots
    spellings = some [some data, id, foreignKey, state, tempId, children] := by
  refine Json.slots_object ?_
  simp [members, spellings, Json.given_cons, Json.given_append, given_member]

theorem childrenOfMembers_append {front : List (String × Json)}
    (h : ∀ entry ∈ front, entry.1 ≠ "children") (rest : List (String × Json)) :
    childrenOfMembers (front ++ rest) = childrenOfMembers rest := by
  induction front with
  | nil => rfl
  | cons entry front ih =>
    obtain ⟨hName, hFront⟩ := List.forall_mem_cons.mp h
    rw [List.cons_append, childrenOfMembers, if_neg hName, ih hFront]

theorem forall_mem_member {name : String} {v : Option Json} (h : name ≠ "children") :
    ∀ entry ∈ member name v, entry.1 ≠ "children" := by
  cases v with
  | none => nofun
  | some v => exact List.forall_mem_singleton.mpr h

theorem childrenOfMembers_members :
    childrenOfMembers (members data id foreignKey state tempId children) =
      (children.map childMap?).getD (some []) := by
  rw [members, childrenOfMembers_append]
  · cases children with
    | none => rfl
    | some children =>
      rw [member, childrenOfMembers, if_pos rfl]
      rfl
  · simp only [List.cons_append, List.forall_mem_cons, List.forall_mem_append]
    exact ⟨by decide, ⟨⟨forall_mem_member (by decide), forall_mem_member (by decide)⟩,
      forall_mem_member (by decide)⟩, forall_mem_member (by decide)⟩

theorem rereadMembers_member (room : Nat) (name : String) (v : Option Json) :
    rereadMembers room (member name v) = member name (v.map (reread room)) := by
  rw [member_eq, Json.rereadMembers_toList, member_eq, Option.map_map]
  rfl

theorem rereadMembers_members (room : Nat) :
    rereadMembers room (members data id foreignKey state tempId children) =
      members (reread room data) (id.map (reread room)) (foreignKey.map (reread room))
        (state.map (reread room)) (tempId.map (reread room)) (children.map (reread room)) := by
  simp only [members, List.cons_append, rereadMembers, Json.rereadMembers_append,
    rereadMembers_member]

theorem memberDepth_members :
    Json.memberDepth (members data id foreignKey state tempId children) =
      max data.depth (max (Json.memberDepth (member "id" id))
        (max (Json.memberDepth (member "foreignKey" foreignKey))
          (max (Json.memberDepth (member "state" state))
            (max (Json.memberDepth (member "tempID" tempId))
              (Json.memberDepth (member "children" children)))))) := by
  simp only [members, List.cons_append, Json.memberDepth, Json.memberDepth_append, Nat.max_assoc]

end

theorem optional_reread {part : Option Value} (h : ReadablePart part) (room : Nat) (name : String) :
    Json.optional Value.ofJson? ((part.map Value.toJson).map (reread room)) =
      fitting room (Json.memberDepth (member name (part.map Value.toJson)))
        (part.map Value.narrowed) := by
  cases part with
  | none => exact (fitting_zero room _).symm
  | some v =>
    obtain ⟨hReadable, hNull⟩ := h v rfl
    have hNotNull := Value.reread_ne_null hReadable hNull room
    have hOptional : Json.optional Value.ofJson? (some (reread room v.toJson)) =
        (Value.ofJson? (reread room v.toJson)).map some := by
      rw [Json.optional]
      exact hNotNull
    rw [Option.map_some, Option.map_some, hOptional, Value.ofJson?_reread hReadable, fitting_map]
    simp [member, Json.memberDepth]

theorem optional_state (state : Option RowState) (room : Nat) :
    Json.optional (Json.word? RowState.ofWord?)
      ((state.map fun s => Json.string s.word).map (reread room)) =
      fitting room (Json.memberDepth (member "state" (state.map fun s => Json.string s.word)))
        state := by
  cases state with
  | none => exact (fitting_zero room _).symm
  | some state => cases state <;> exact (fitting_zero room _).symm

theorem mapM_reread {record : Record} (h : ∀ entry ∈ record, entry.2.Readable) (room : Nat) :
    (rereadMembers room (record.map fun entry => (entry.1, entry.2.toJson))).mapM (fun member => do
      let v ← Value.ofJson? member.2
      some (member.1, v)) =
      fitting room (Json.memberDepth (record.map fun entry => (entry.1, entry.2.toJson)))
        (record.map fun entry => (entry.1, entry.2.narrowed)) := by
  induction record with
  | nil => exact (fitting_zero room _).symm
  | cons entry rest ih =>
    obtain ⟨hFirst, hRest⟩ := List.forall_mem_cons.mp h
    have hEntry : (do
        let v ← Value.ofJson? (reread room entry.2.toJson)
        some (entry.1, v)) =
        fitting room entry.2.toJson.depth (entry.1, entry.2.narrowed) := by
      rw [Value.ofJson?_reread hFirst]
      exact fitting_bind_some room _ _ _
    rw [List.map_cons, rereadMembers, List.mapM_cons, hEntry, ih hRest]
    exact fitting_bind (fitting_bind_some room _ _ _)

theorem recordOfJson?_reread {record : Record} (hNames : (Entries.names record).Nodup)
    (h : ∀ entry ∈ record, entry.2.Readable) (room : Nat) :
    recordOfJson? (reread room (recordToJson record)) =
      fitting room (recordToJson record).depth
        (record.map fun entry => (entry.1, entry.2.narrowed)) := by
  cases room with
  | zero => rfl
  | succ room =>
    have hNarrowed :
        (Entries.names (record.map fun entry => (entry.1, entry.2.narrowed))).Nodup := by
      rwa [Entries.names, List.map_map]
    rw [recordToJson, reread, recordOfJson?, Json.object?, Option.bind_eq_bind, Option.bind_some,
      mapM_reread h, Json.depth, fitting_succ]
    refine (fitting_bind_some room _ _ _).trans ?_
    rw [Entries.ofPairs_of_nodup hNarrowed]

theorem assemble_some (data : Json) (id foreignKey state tempId found : Option Json)
    (children : Option (Entries (List Row))) :
    assemble (some [some data, id, foreignKey, state, tempId, found]) children = (do
      let data ← recordOfJson? data
      let id ← Json.optional Value.ofJson? id
      let foreignKey ← Json.optional Value.ofJson? foreignKey
      let state ← Json.optional (Json.word? RowState.ofWord?) state
      let tempId ← Json.optional Value.ofJson? tempId
      let children ← children
      some ⟨data, id, foreignKey, state, tempId, children⟩) := rfl

theorem names_narrowedLists (lists : List (String × List Row)) :
    Entries.names (narrowedLists lists) = Entries.names lists := by
  induction lists with
  | nil => rfl
  | cons entry rest ih => exact congrArg (entry.1 :: ·) ih

mutual

theorem ofJson?_reread {row : Row} (h : Readable row) (room : Nat) :
    ofJson? (reread room row.toJson) = fitting room row.toJson.depth row.narrowed := by
  obtain ⟨hDataNames, hData, hId, hForeignKey, hTempId, hChildNames, hChildren⟩ := h
  obtain ⟨data, id, foreignKey, state, tempId, children⟩ := row
  cases room with
  | zero => rfl
  | succ room =>
    have hMembers : toJson ⟨data, id, foreignKey, state, tempId, children⟩ =
        .object (members (recordToJson data) (id.map Value.toJson) (foreignKey.map Value.toJson)
          (state.map fun s => .string s.word) (tempId.map Value.toJson)
          (if children.isEmpty then none else some (.object (listsToJson children)))) := rfl
    have hChildMap := childMap_reread hChildNames hChildren room
    have hData := recordOfJson?_reread hDataNames hData room
    rw [hMembers, reread, rereadMembers_members, ofJson?, slots_members, childrenOfMembers_members,
      Json.depth, fitting_succ, memberDepth_members, assemble_some, hData,
      optional_reread hId room "id", optional_reread hForeignKey room "foreignKey",
      optional_state, optional_reread hTempId room "tempID", hChildMap]
    exact fitting_bind (fitting_bind (fitting_bind (fitting_bind (fitting_bind
      (fitting_bind_some room _ _ _)))))

/-- What is read where the children were written, or left out. -/
theorem childMap_reread {children : List (String × List Row)}
    (hNames : (Entries.names children).Nodup)
    (h : ∀ entry ∈ children, ∀ row ∈ entry.2, Readable row) (room : Nat) :
    (((if children.isEmpty then none else some (Json.object (listsToJson children))).map
      (reread room)).map childMap?).getD (some []) =
      fitting room (Json.memberDepth (member "children"
        (if children.isEmpty then none else some (Json.object (listsToJson children)))))
        (narrowedLists children) := by
  cases children with
  | nil => exact (fitting_zero room _).symm
  | cons entry rest =>
    have hNarrowed : (Entries.names (narrowedLists (entry :: rest))).Nodup := by
      rwa [names_narrowedLists]
    rw [List.isEmpty_cons, if_neg Bool.false_ne_true, Option.map_some, Option.map_some,
      Option.getD_some, member, Json.memberDepth, Json.memberDepth, Nat.max_zero]
    cases room with
    | zero => rfl
    | succ room =>
      rw [reread, childMap?, rowLists?_reread h, fitting_map, Entries.ofPairs_of_nodup hNarrowed,
        Json.depth, fitting_succ]

theorem ofJsons?_reread {rows : List Row} (h : ∀ row ∈ rows, Readable row) (room : Nat) :
    ofJsons? (rereadItems room (toJsons rows)) =
      fitting room (Json.itemDepth (toJsons rows)) (narroweds rows) := by
  cases rows with
  | nil => exact (fitting_zero room _).symm
  | cons row rest =>
    obtain ⟨hFirst, hRest⟩ := List.forall_mem_cons.mp h
    rw [toJsons, rereadItems, ofJsons?, ofJson?_reread hFirst, ofJsons?_reread hRest]
    exact fitting_bind (fitting_bind_some room _ _ _)

theorem rowLists?_reread {lists : List (String × List Row)}
    (h : ∀ entry ∈ lists, ∀ row ∈ entry.2, Readable row) (room : Nat) :
    rowLists? (rereadMembers room (listsToJson lists)) =
      fitting room (Json.memberDepth (listsToJson lists)) (narrowedLists lists) := by
  cases lists with
  | nil => exact (fitting_zero room _).symm
  | cons entry rest =>
    obtain ⟨name, rows⟩ := entry
    obtain ⟨hFirst, hRest⟩ := List.forall_mem_cons.mp h
    have hRows : rowList? (reread room (.array (toJsons rows))) =
        fitting room (Json.array (toJsons rows)).depth (narroweds rows) := by
      cases room with
      | zero => rfl
      | succ room =>
        rw [reread, rowList?, ofJsons?_reread hFirst, Json.depth, fitting_succ]
    rw [listsToJson, rereadMembers, rowLists?, hRows, rowLists?_reread hRest]
    exact fitting_bind (fitting_bind_some room _ _ _)

end

/-- A tree is read as it was written if its text has no more than 127 containers within one
another. Otherwise it is not read. -/
theorem read_written {row : Row} (h : Readable row) :
    (Json.read? row.toJson.text).bind ofJson? =
      if row.toJson.depth ≤ 127 then some row.narrowed else none := by
  rw [Json.read?_text, Option.bind_some, ofJson?_reread h, fitting]

/-- An order with one new line. Its floats are 0.1 and minus zero. -/
def order : Row where
  data := [("total", .float ⟨0x3FB999999999999A⟩), ("count", .nat 3),
    ("large", .nat 0x8000000000000000), ("note", .string "a\"b\n"),
    ("tags", .list [.null, .bool true, .int (-5), .float ⟨0x8000000000000000⟩])]
  id := some (.nat 7)
  state := some .updated
  children := [("Lines", [{
    data := [("amount", .nat 2)]
    foreignKey := some (.int 7)
    state := some .inserted
    tempId := some (.string "t1") }])]

theorem order_readable : Readable order := by
  have hTenth : (Value.float ⟨0x3FB999999999999A⟩).Readable := ⟨by decide, by decide +kernel⟩
  have hMinusZero : (Value.float ⟨0x8000000000000000⟩).Readable := ⟨by decide, by decide +kernel⟩
  refine ⟨by decide, ?_, ?_, nofun, nofun, List.pairwise_singleton _ _, ?_⟩
  · simp only [order, List.forall_mem_cons]
    exact ⟨hTenth, trivial, trivial, trivial, ⟨trivial, trivial, trivial, hMinusZero, trivial⟩,
      nofun⟩
  · rintro _ ⟨⟩
    exact ⟨trivial, rfl⟩
  · refine List.forall_mem_singleton.mpr (List.forall_mem_singleton.mpr ?_)
    refine ⟨List.pairwise_singleton _ _, List.forall_mem_singleton.mpr trivial, nofun, ?_, ?_,
      List.nodup_nil, nofun⟩
    · rintro _ ⟨⟩
      exact ⟨trivial, rfl⟩
    · rintro _ ⟨⟩
      exact ⟨trivial, rfl⟩

theorem order_read_written : order.toJson.depth ≤ 127 ∧
    (Json.read? order.toJson.text).bind ofJson? = some { order with
      data := [("total", .float ⟨0x3FB999999999999A⟩), ("count", .int 3),
        ("large", .nat 0x8000000000000000), ("note", .string "a\"b\n"),
        ("tags", .list [.null, .bool true, .int (-5), .float ⟨0x8000000000000000⟩])]
      id := some (.int 7)
      children := [("Lines", [{
        data := [("amount", .int 2)]
        foreignKey := some (.int 7)
        state := some .inserted
        tempId := some (.string "t1") }])] } := by
  have hDepth : order.toJson.depth ≤ 127 := by decide
  refine ⟨hDepth, ?_⟩
  rw [read_written order_readable, if_pos hDepth]
  rfl

/-- Rows of `n` levels under a row. -/
def chain : Nat → Row
  | 0 => {}
  | n + 1 => { children := [("Child", [chain n])] }

theorem chain_readable (n : Nat) : Readable (chain n) := by
  induction n with
  | zero => exact ⟨List.nodup_nil, nofun, nofun, nofun, nofun, List.nodup_nil, nofun⟩
  | succ n ih =>
    exact ⟨List.nodup_nil, nofun, nofun, nofun, nofun, List.pairwise_singleton _ _,
      List.forall_mem_singleton.mpr (List.forall_mem_singleton.mpr ih)⟩

theorem depth_chain (n : Nat) : (chain n).toJson.depth = 3 * n + 2 := by
  induction n with
  | zero => rfl
  | succ n ih =>
    have hDepth : (chain (n + 1)).toJson.depth =
        max 1 (max (max (max (chain n).toJson.depth 0 + 1) 0 + 1) 0) + 1 := rfl
    omega

/-- Of 43 levels the tree is written, and its text is not read. -/
theorem chain_not_read : Readable (chain 42) ∧
    (Json.read? (chain 42).toJson.text).bind ofJson? = none := by
  refine ⟨chain_readable 42, ?_⟩
  rw [Json.read?_text, Option.bind_some, ofJson?_reread (chain_readable 42), fitting, depth_chain]
  exact if_neg (by decide)

end Row

end RowTree
