import Mathlib.Data.List.Forall2
import RowTree.Session.Read

/-!
# Children by their parents

The rows of a child model are put under their parents by an index of the parents' link values,
in one pass. Every parent gets what it would find by itself if it searched all rows for its own
key, whatever the rows are and whatever was under the parents before.
-/

namespace RowTree

open Schema

namespace KeyIndex

theorem positions_addValue (index : KeyIndex) (v : Value) (i : Nat) (key : Key) :
    (index.addValue v i).positions key =
      index.positions key ++ if v.key? = some key then [i] else [] := by
  unfold addValue
  cases v.key? with
  | none => rw [if_neg nofun, List.append_nil]
  | some k => simp only [positions_add, Option.some.injEq]

theorem positions_ofValues (values : List Value) (key : Key) :
    (ofValues values).positions key =
      (values.zipIdx.filter (·.1.key? == some key)).map (·.2) := by
  have hFold (entries : List (Value × Nat)) (index : KeyIndex) :
      (entries.foldl (fun index entry => index.addValue entry.1 entry.2) index).positions key =
        index.positions key ++ (entries.filter (·.1.key? == some key)).map (·.2) := by
    induction entries generalizing index with
    | nil => rw [List.foldl_nil, List.filter_nil, List.map_nil, List.append_nil]
    | cons entry rest ih =>
      rw [List.foldl_cons, ih, positions_addValue, List.append_assoc]
      by_cases hKey : entry.1.key? = some key <;> simp [hKey]
  rw [ofValues, hFold, positions, List.nil_append]

theorem mem_positions {values : List Value} {key : Key} {i : Nat} :
    i ∈ (ofValues values).positions key ↔ ∃ v, values[i]? = some v ∧ v.key? = some key := by
  rw [positions_ofValues, List.mem_map]
  constructor
  · rintro ⟨⟨v, _⟩, hEntry, rfl⟩
    obtain ⟨hMem, hKey⟩ := List.mem_filter.mp hEntry
    exact ⟨v, List.mem_zipIdx_iff_getElem?.mp hMem, beq_iff_eq.mp hKey⟩
  · rintro ⟨v, hAt, hKey⟩
    have hMem : (v, i) ∈ values.zipIdx := List.mem_zipIdx_iff_getElem?.mpr hAt
    exact ⟨(v, i), List.mem_filter.mpr ⟨hMem, beq_iff_eq.mpr hKey⟩, rfl⟩

theorem nodup_positions (values : List Value) (key : Key) :
    ((ofValues values).positions key).Nodup := by
  have hAll : (values.zipIdx.map Prod.snd).Nodup := by
    rw [List.zipIdx_map_snd]
    exact List.nodup_range'
  rw [positions_ofValues]
  exact hAll.sublist (List.filter_sublist.map _)

end KeyIndex

theorem getElem?_foldl_modify {α : Type} {positions : List Nat} (h : positions.Nodup)
    (f : α → α) (xs : List α) (i : Nat) :
    (positions.foldl (fun xs j => xs.modify j f) xs)[i]? =
      if i ∈ positions then xs[i]?.map f else xs[i]? := by
  induction positions generalizing xs with
  | nil => rw [List.foldl_nil, if_neg List.not_mem_nil]
  | cons j rest ih =>
    obtain ⟨hFresh, hRest⟩ := List.nodup_cons.mp h
    rw [List.foldl_cons, ih hRest, List.getElem?_modify]
    by_cases hHere : j = i
    · subst hHere
      simp [hFresh]
    · simp [hHere, Ne.symm hHere]

/-- What is done at the positions of a key is done to the rows that have it. -/
theorem foldl_positions {parents : List Row} {field : String} (key : Key) (f g : Row → Row) :
    ((KeyIndex.ofValues (parents.map (·.get field))).positions key).foldl
        (fun rows i => rows.modify i f) (parents.map g) =
      parents.map fun parent =>
        if (parent.get field).key? = some key then f (g parent) else g parent := by
  apply List.ext_getElem?
  intro i
  rw [getElem?_foldl_modify (KeyIndex.nodup_positions _ key), List.getElem?_map, List.getElem?_map]
  cases hParent : parents[i]? with
  | none => simp
  | some parent =>
    have hIff : i ∈ (KeyIndex.ofValues (parents.map (·.get field))).positions key ↔
        (parent.get field).key? = some key := by
      rw [KeyIndex.mem_positions, List.getElem?_map, hParent]
      simp
    by_cases hKey : (parent.get field).key? = some key <;> simp [hIff, hKey]

/-- The rows whose value in the field has a key, which is that of the given value, too. -/
def matching (rows : List Row) (field : String) (v : Value) : List Row :=
  rows.filter fun row => (row.get field).key?.isSome && (row.get field).key? == v.key?

theorem matching_concat (rows : List Row) (field : String) (v : Value) (row : Row) :
    matching (rows ++ [row]) field v = matching rows field v ++
      if (row.get field).key?.isSome ∧ v.key? = (row.get field).key? then [row] else [] := by
  rw [matching, List.filter_append, List.filter_cons, List.filter_nil]
  simp only [Bool.and_eq_true, beq_iff_eq, @eq_comm _ v.key?]
  rfl

theorem addChildRow_setChildRows (parent : Row) (child : String) (rows : List Row) (row : Row) :
    (parent.setChildRows child rows).addChildRow child row =
      parent.setChildRows child (rows ++ [row]) := by
  have hThere : (parent.setChildRows child rows).childRows? child = some rows :=
    Entries.get?_set_self _ _ _
  rw [Row.addChildRow, hThere]
  exact congrArg (fun children => { parent with children }) (Entries.set_set _ _ _ _)

theorem attachRow_map (child : String) (link : ParentLink) (parents : List Row)
    (under : Row → List Row) (row : Row) :
    attachRow child link (.ofValues (parents.map (·.get link.parentField)))
        (parents.map fun parent => parent.setChildRows child (under parent)) row =
      parents.map fun parent => parent.setChildRows child (under parent ++
        if (row.get link.childField).key?.isSome ∧
          (parent.get link.parentField).key? = (row.get link.childField).key?
        then [row] else []) := by
  unfold attachRow
  cases (row.get link.childField).key? with
  | none => simp
  | some key =>
    dsimp only
    rw [foldl_positions]
    refine List.map_congr_left fun parent _ => ?_
    by_cases hKey : (parent.get link.parentField).key? = some key
    · simp [hKey, addChildRow_setChildRows]
    · simp [hKey]

/-- One pass over the rows with an index of the parents is a search of each parent through all
rows. -/
theorem attach_eq_map (child : String) (link : ParentLink) (parents rows : List Row) :
    attach child link parents rows = parents.map fun parent =>
      parent.setChildRows child (matching rows link.childField (parent.get link.parentField)) := by
  -- After some of the rows every parent has its own of these.
  have hFold (before rest : List Row) :
      rest.foldl (attachRow child link (.ofValues (parents.map (·.get link.parentField))))
          (parents.map fun parent => parent.setChildRows child
            (matching before link.childField (parent.get link.parentField))) =
        parents.map fun parent => parent.setChildRows child
          (matching (before ++ rest) link.childField (parent.get link.parentField)) := by
    induction rest generalizing before with
    | nil => rw [List.foldl_nil, List.append_nil]
    | cons row rest ih =>
      rw [List.foldl_cons, attachRow_map]
      simp only [← matching_concat]
      rw [ih, List.append_assoc, List.singleton_append]
  have hNone : (parents.map fun parent => parent.setChildRows child []) =
      parents.map fun parent => parent.setChildRows child
        (matching [] link.childField (parent.get link.parentField)) := by
    refine List.map_congr_left fun parent _ => ?_
    rfl
  rw [attach, hNone, hFold, List.nil_append]

/-- The parent has the rows under the name of the child model, and is otherwise as it was. -/
structure Attached (child : String) (rows : List Row) (parent attached : Row) : Prop where
  entry : attached.childRows? child = some rows
  others : attached.children.filter (·.1 != child) = parent.children.filter (·.1 != child)
  names : Entries.names attached.children =
    if child ∈ Entries.names parent.children then Entries.names parent.children
    else Entries.names parent.children ++ [child]
  own : attached = { parent with children := attached.children }

theorem Attached.of_setChildRows (child : String) (rows : List Row) (parent : Row) :
    Attached child rows parent (parent.setChildRows child rows) where
  entry := Entries.get?_set_self _ _ _
  others := Entries.filter_set _ _ _ (· != child) (bne_self_eq_false child)
  names := Entries.names_set _ _ _
  own := rfl

/-- Every parent gets the rows that have the key of its link value, each once and in order, and
nothing else about it changes. A row is under no parent if and only if its own link value is null
or no parent's has the same key. -/
theorem attach_partitions (child : String) (link : ParentLink) (parents rows : List Row) :
    List.Forall₂ (fun parent attached =>
        Attached child (matching rows link.childField (parent.get link.parentField)) parent attached)
      parents (attach child link parents rows) ∧
    ∀ row ∈ rows, (∀ attached ∈ attach child link parents rows,
        row ∉ (attached.childRows? child).getD []) ↔
      (row.get link.childField).isNull = true ∨
        ∀ parent ∈ parents, (parent.get link.parentField).key? ≠ (row.get link.childField).key? := by
  rw [attach_eq_map]
  constructor
  · rw [List.forall₂_map_right_iff, List.forall₂_same]
    exact fun parent _ => Attached.of_setChildRows child _ parent
  · intro row hRow
    rw [List.forall_mem_map]
    have hUnder (parent : Row) :
        row ∈ ((parent.setChildRows child (matching rows link.childField
          (parent.get link.parentField))).childRows? child).getD [] ↔
        (row.get link.childField).isNull = false ∧
          (parent.get link.parentField).key? = (row.get link.childField).key? := by
      rw [(Attached.of_setChildRows child _ parent).entry, Option.getD_some, matching,
        List.mem_filter, Bool.and_eq_true, beq_iff_eq, Value.isNull_eq_isNone,
        Option.isNone_eq_false_iff]
      exact ⟨fun h => ⟨h.2.1, h.2.2.symm⟩, fun h => ⟨hRow, h.1, h.2.symm⟩⟩
    simp only [hUnder]
    cases (row.get link.childField).isNull <;> simp

namespace Family

def personNamed (id : Value) (children : List (String × List Row)) : Row where
  data := [("PersonID", id)]
  children := children

def childNamed (name : String) (parent : Value) : Row where
  data := [("Name", .string name), ("ParentID", parent)]

/-- Two persons with the same key, one of them with a child from before, and one without a key. -/
def twins : List Row :=
  [personNamed (.int 2) [("Child", [childNamed "Al" (.int 2)]), ("Pet", [])],
    personNamed .null [], personNamed (.nat 2) []]

def orphan : Row := childNamed "Cy" (.int 9)

def nursery : List Row :=
  [childNamed "Bo" (.nat 2), childNamed "Di" .null, orphan, childNamed "Ed" (.int 2)]

/-- Both persons with the key get both children that have it, and nobody gets the orphan. -/
theorem attach_nursery :
    attach "Child" ⟨"PersonID", "ParentID"⟩ twins nursery =
        [personNamed (.int 2)
            [("Child", [childNamed "Bo" (.nat 2), childNamed "Ed" (.int 2)]), ("Pet", [])],
          personNamed .null [("Child", [])],
          personNamed (.nat 2)
            [("Child", [childNamed "Bo" (.nat 2), childNamed "Ed" (.int 2)])]] ∧
      orphan ∈ nursery ∧
      ((∀ attached ∈ attach "Child" ⟨"PersonID", "ParentID"⟩ twins nursery,
          orphan ∉ (attached.childRows? "Child").getD []) ↔
        (orphan.get "ParentID").isNull = true ∨
          ∀ parent ∈ twins, (parent.get "PersonID").key? ≠ (orphan.get "ParentID").key?) := by
  have hOrphan : orphan ∈ nursery := .tail _ (.tail _ (.head _))
  exact ⟨rfl, hOrphan, (attach_partitions "Child" ⟨"PersonID", "ParentID"⟩ twins nursery).2 orphan
    hOrphan⟩

end Family

end RowTree
