import RowTree.Proofs.Written

/-!
# The order of the writes

No row is due for two writes, and what is due for a row comes before what is due
for the rows under it, unless it is deleted. So a save that does not fail
executes one statement for each pending change, in the order in which they are due.
-/

namespace RowTree

open Schema Sql

/-- It belongs to the row at the place or to a row under that. -/
structure Due.Under (root : Row) (place : Place) (above : Option WriteKind) (entity : Entity)
    (due : Due) : Prop where
  suffix : place <:+ due.place
  row_eq : rowAt? root due.place = some due.row
  own : due.place = place → due.above = above ∧ due.entity = entity
  linked : due.place ≠ place → due.entity.Linked
  fields : (due.entity.fields.map (·.name)).Nodup

def Due.Below (root : Row) (place : Place) (above : Option WriteKind) (children : List Model)
    (due : Due) : Prop :=
  ∃ child ∈ children, ∃ i, due.Under root ((child.name, i) :: place) above child.entity

/-- One stands before the other in the order in which they are due. -/
structure Due.Precedes (a b : Due) : Prop where
  place_ne : a.place ≠ b.place
  above_eq : a.place = b.place.tail → a.kind ≠ .delete → b.above = some a.kind
  deletes : b.place = a.place.tail → b.kind = .delete

theorem head_eq_of_suffix {α : Type} {a b : α} {rest path : List α} (ha : a :: rest <:+ path)
    (hb : b :: rest <:+ path) : a = b := by
  have hSame : a :: rest = b :: rest :=
    (List.suffix_of_suffix_length_le ha hb (by simp)).eq_of_length (by simp)
  exact (List.cons.inj hSame).1

theorem not_cons_suffix {α : Type} (a : α) (rest : List α) : ¬a :: rest <:+ rest := by
  intro h
  have hLength := h.length_le
  rw [List.length_cons] at hLength
  omega

theorem pairwise_snd_ne (rows : List Row) : rows.zipIdx.Pairwise fun a b => a.2 ≠ b.2 := by
  have hNumbers : (rows.zipIdx.map Prod.snd).Nodup := by
    rw [List.zipIdx_map_snd]
    exact List.nodup_range'
  exact List.pairwise_map.mp hNumbers

namespace Due

section

variable {root : Row} {place : Place} {above : Option WriteKind} {entity : Entity} {a b : Due}

theorem Under.above_of_tail {entry : String × Nat} (h : a.Under root (entry :: place) above entity)
    (hPlace : a.place.tail = place) : a.above = above := by
  refine (h.own ?_).1
  cases hHere : a.place with
  | nil =>
    have hSuffix := h.suffix
    rw [hHere, List.suffix_nil] at hSuffix
    cases hSuffix
  | cons first rest =>
    have hSuffix := h.suffix
    rw [hHere] at hPlace hSuffix
    rw [List.tail_cons] at hPlace
    rw [hPlace] at hSuffix ⊢
    rw [head_eq_of_suffix hSuffix (List.suffix_refl _)]

theorem precedes_of_ne {entry other : String × Nat} {above' : Option WriteKind} {entity' : Entity}
    (ha : a.Under root (entry :: place) above entity)
    (hb : b.Under root (other :: place) above' entity')
    (hNe : entry ≠ other) : a.Precedes b where
  place_ne h := hNe (head_eq_of_suffix (h ▸ ha.suffix) hb.suffix)
  above_eq h := by
    have hParent := ha.suffix
    rw [h] at hParent
    exact absurd (head_eq_of_suffix (hParent.trans (List.tail_suffix _)) hb.suffix) hNe
  deletes h := by
    have hParent := hb.suffix
    rw [h] at hParent
    exact absurd (head_eq_of_suffix ha.suffix (hParent.trans (List.tail_suffix _))) hNe

theorem Under.not_suffix {entry : String × Nat} (h : a.Under root (entry :: place) above entity) :
    ¬a.place <:+ place := by
  intro hPlace
  exact not_cons_suffix entry place (h.suffix.trans hPlace)

theorem Below.under {children : List Model} {above' : Option WriteKind}
    (h : a.Below root place above children) (hChildren : Siblings children) :
    a.Under root place above' entity := by
  obtain ⟨child, hChild, i, h⟩ := h
  refine ⟨(List.suffix_cons _ _).trans h.suffix, h.row_eq, ?_, ?_, h.fields⟩
  · intro hPlace
    exact absurd (hPlace ▸ List.suffix_refl _) h.not_suffix
  · intro _
    by_cases hOwn : a.place = (child.name, i) :: place
    · rw [(h.own hOwn).2]
      exact hChildren.linked child hChild
    · exact h.linked hOwn

theorem precedes_below {children : List Model} (ha : a.place = place)
    (hb : b.Below root place (some a.kind) children) : a.Precedes b := by
  obtain ⟨_, _, _, hb⟩ := hb
  constructor
  · intro h
    exact hb.not_suffix (h ▸ ha ▸ List.suffix_refl _)
  · intro h _
    exact hb.above_of_tail (h ▸ ha)
  · intro h
    rw [ha] at h
    exact absurd (h ▸ List.tail_suffix _) hb.not_suffix

theorem precedes_delete {children : List Model} (ha : a.Below root place above children)
    (hb : b.place = place) (hKind : b.kind = .delete) : a.Precedes b := by
  obtain ⟨_, _, _, ha⟩ := ha
  constructor
  · intro h
    exact absurd (h.trans hb ▸ List.suffix_refl _) ha.not_suffix
  · intro h
    rw [hb] at h
    exact absurd (h ▸ List.tail_suffix _) ha.not_suffix
  · intro _
    exact hKind

end

end Due

theorem rowAt?_cons {root row : Row} {place : Place} {name : String} {entry : Row × Nat}
    (hRow : rowAt? root place = some row)
    (hEntry : entry ∈ ((row.childRows? name).getD []).zipIdx) :
    rowAt? root ((name, entry.2) :: place) = some entry.1 := by
  have hChild := List.mem_zipIdx_iff_getElem?.mp hEntry
  rw [rowAt?, hRow, Option.bind_some]
  cases hRows : row.childRows? name with
  | none =>
    rw [hRows] at hChild
    cases hChild
  | some rows =>
    rw [hRows] at hChild
    exact hChild

mutual

theorem under_of_mem_deletions (model : Model) (hModel : model.WellFormed) {root row : Row}
    {place : Place} {above : Option WriteKind} {due : Due} (hRow : rowAt? root place = some row)
    (h : due ∈ deletions place above row model) :
    due.Under root place above model.entity := by
  cases model with
  | node entity children =>
    rcases List.mem_append.mp h with h | h
    · exact (below_of_mem_deletionsUnder children hModel.siblings hRow h).under hModel.siblings
    · cases List.mem_singleton.mp h
      exact ⟨List.suffix_refl _, hRow, fun _ => ⟨rfl, rfl⟩, fun h => absurd rfl h, hModel.fields⟩

theorem below_of_mem_deletionsUnder (children : List Model) (hChildren : Siblings children)
    {root row : Row} {place : Place} {due : Due}
    (hRow : rowAt? root place = some row) (h : due ∈ deletionsUnder place row children) :
    due.Below root place none children := by
  cases children with
  | nil => cases h
  | cons child rest =>
    rcases List.mem_append.mp h with h | h
    · obtain ⟨entry, hEntry, h⟩ := List.mem_flatMap.mp h
      split at h
      · cases h
      · exact ⟨child, List.mem_cons_self, entry.2,
          under_of_mem_deletions child hChildren.first (rowAt?_cons hRow hEntry) h⟩
    · obtain ⟨c, hc, hUnder⟩ := below_of_mem_deletionsUnder rest hChildren.tail hRow h
      exact ⟨c, List.mem_cons_of_mem _ hc, hUnder⟩

end

theorem under_of_mem_rowDues {model : Model} (hModel : model.WellFormed) {root row : Row}
    {place : Place} {above : Option WriteKind} {under : Option WriteKind → List Due} {due : Due}
    (hRow : rowAt? root place = some row)
    (hBelow : ∀ kind, ∀ due ∈ under kind, due.Below root place kind model.children)
    (h : due ∈ rowDues place above row model under) : due.Under root place above model.entity := by
  have hUnder {kind : Option WriteKind} (hDue : due ∈ under kind) :
      due.Under root place above model.entity := by
    cases model with
    | node entity children => exact (hBelow kind due hDue).under hModel.siblings
  have hOwn (kind : WriteKind) :
      Due.Under root place above model.entity ⟨place, kind, model.entity, row, above⟩ :=
    ⟨List.suffix_refl _, hRow, fun _ => ⟨rfl, rfl⟩, fun h => absurd rfl h, hModel.fields⟩
  unfold rowDues at h
  split at h
  · rcases List.mem_cons.mp h with rfl | h
    · exact hOwn .insert
    · exact hUnder h
  · dsimp only at h
    split at h
    · exact hUnder h
    · rcases List.mem_cons.mp h with rfl | h
      · exact hOwn .update
      · exact hUnder h
  · exact under_of_mem_deletions model hModel hRow h
  · exact hUnder h

mutual

theorem under_of_mem_duesOf (model : Model) (hModel : model.WellFormed) {root : Row}
    {rows : List Row} {place : Place} {above : Option WriteKind} {due : Due}
    (hRows : ∀ entry ∈ rows.zipIdx, rowAt? root ((model.name, entry.2) :: place) = some entry.1)
    (h : due ∈ duesOf place above rows model) :
    ∃ i, due.Under root ((model.name, i) :: place) above model.entity := by
  cases model with
  | node entity children =>
    obtain ⟨entry, hEntry, h⟩ := List.mem_flatMap.mp h
    refine ⟨entry.2, under_of_mem_rowDues hModel (hRows entry hEntry) ?_ h⟩
    intro kind due hDue
    exact below_of_mem_childDues children hModel.siblings (hRows entry hEntry) hDue

theorem below_of_mem_childDues (children : List Model) (hChildren : Siblings children)
    {root row : Row} {place : Place} {above : Option WriteKind} {due : Due}
    (hRow : rowAt? root place = some row)
    (h : due ∈ childDues place above row children) : due.Below root place above children := by
  cases children with
  | nil => cases h
  | cons child rest =>
    rcases List.mem_append.mp h with h | h
    · obtain ⟨i, hUnder⟩ := under_of_mem_duesOf child hChildren.first
        (fun _ hEntry => rowAt?_cons hRow hEntry) h
      exact ⟨child, List.mem_cons_self, i, hUnder⟩
    · obtain ⟨c, hc, hUnder⟩ := below_of_mem_childDues rest hChildren.tail hRow h
      exact ⟨c, List.mem_cons_of_mem _ hc, hUnder⟩

end

theorem rowAt?_rootOf {model : Model} {rows : List Row} :
    ∀ entry ∈ rows.zipIdx, rowAt? (rootOf model rows) [(model.name, entry.2)] = some entry.1 := by
  intro entry hEntry
  have hRows : (rootOf model rows).childRows? model.name = some rows := by
    rw [rootOf, Row.childRows?, Entries.get?, if_pos rfl]
  apply rowAt?_cons rfl
  rw [hRows]
  exact hEntry

theorem exists_under_of_mem_dues {model : Model} (hModel : model.WellFormed) {rows : List Row}
    {due : Due} (h : due ∈ dues model rows) :
    ∃ i, due.Under (rootOf model rows) [(model.name, i)] none model.entity :=
  under_of_mem_duesOf model hModel rowAt?_rootOf h

theorem pairwise_rows {root : Row} {name : String} {place : Place} {above : Option WriteKind}
    {entity : Entity} {rows : List Row} {part : Row × Nat → List Due}
    (hUnder : ∀ entry ∈ rows.zipIdx, ∀ due ∈ part entry,
      due.Under root ((name, entry.2) :: place) above entity)
    (hPart : ∀ entry ∈ rows.zipIdx, (part entry).Pairwise Due.Precedes) :
    (rows.zipIdx.flatMap part).Pairwise Due.Precedes := by
  rw [List.pairwise_flatMap]
  refine ⟨hPart, ?_⟩
  apply (pairwise_snd_ne rows).imp_of_mem
  intro first second hFirst hSecond hNe a ha b hb
  apply Due.precedes_of_ne (hUnder first hFirst a ha) (hUnder second hSecond b hb)
  intro hSame
  exact hNe (Prod.mk.inj hSame).2

theorem pairwise_models {root : Row} {child : Model} {rest : List Model} {place : Place}
    {above : Option WriteKind} {dues more : List Due}
    (hChildren : Siblings (child :: rest))
    (hDues : ∀ due ∈ dues, ∃ i, due.Under root ((child.name, i) :: place) above child.entity)
    (hMore : ∀ due ∈ more, due.Below root place above rest)
    (hFirst : dues.Pairwise Due.Precedes) (hRest : more.Pairwise Due.Precedes) :
    (dues ++ more).Pairwise Due.Precedes := by
  rw [List.pairwise_append]
  refine ⟨hFirst, hRest, ?_⟩
  intro a ha b hb
  obtain ⟨i, ha⟩ := hDues a ha
  obtain ⟨c, hc, j, hb⟩ := hMore b hb
  apply Due.precedes_of_ne ha hb
  intro hSame
  exact hChildren.name_ne hc (Prod.mk.inj hSame).1

mutual

theorem deletions_pairwise (model : Model) (hModel : model.WellFormed) {root row : Row}
    {place : Place} {above : Option WriteKind} (hRow : rowAt? root place = some row) :
    (deletions place above row model).Pairwise Due.Precedes := by
  cases model with
  | node entity children =>
    have hChildren := hModel.siblings
    rw [deletions, List.pairwise_append]
    refine ⟨deletionsUnder_pairwise children hChildren hRow, List.pairwise_singleton _ _, ?_⟩
    intro a ha b hb
    cases List.mem_singleton.mp hb
    exact Due.precedes_delete (below_of_mem_deletionsUnder children hChildren hRow ha) rfl rfl

theorem deletionsUnder_pairwise (children : List Model) (hChildren : Siblings children)
    {root row : Row} {place : Place}
    (hRow : rowAt? root place = some row) :
    (deletionsUnder place row children).Pairwise Due.Precedes := by
  cases children with
  | nil => exact List.Pairwise.nil
  | cons child rest =>
    have hPart : ∀ entry ∈ ((row.childRows? child.name).getD []).zipIdx,
        ∀ due ∈ (if entry.1.isUnsaved then []
          else deletions ((child.name, entry.2) :: place) none entry.1 child),
        due.Under root ((child.name, entry.2) :: place) none child.entity := by
      intro entry hEntry due hDue
      split at hDue
      · cases hDue
      · exact under_of_mem_deletions child hChildren.first (rowAt?_cons hRow hEntry) hDue
    rw [deletionsUnder]
    refine pairwise_models hChildren ?_
      (fun due hDue => below_of_mem_deletionsUnder rest hChildren.tail hRow hDue) ?_
      (deletionsUnder_pairwise rest hChildren.tail hRow)
    · intro due hDue
      obtain ⟨entry, hEntry, hDue⟩ := List.mem_flatMap.mp hDue
      exact ⟨entry.2, hPart entry hEntry due hDue⟩
    · apply pairwise_rows hPart
      intro entry hEntry
      split
      · exact List.Pairwise.nil
      · exact deletions_pairwise child hChildren.first (rowAt?_cons hRow hEntry)

end

theorem rowDues_pairwise {model : Model} (hModel : model.WellFormed) {root row : Row}
    {place : Place} {above : Option WriteKind} {under : Option WriteKind → List Due}
    (hRow : rowAt? root place = some row)
    (hBelow : ∀ kind, ∀ due ∈ under kind, due.Below root place kind model.children)
    (hPairwise : ∀ kind, (under kind).Pairwise Due.Precedes) :
    (rowDues place above row model under).Pairwise Due.Precedes := by
  -- An insert or an update comes first, and what is under it knows its kind.
  have hWrite (due : Due) (hPlace : due.place = place) :
      (due :: under (some due.kind)).Pairwise Due.Precedes := by
    rw [List.pairwise_cons]
    refine ⟨?_, hPairwise _⟩
    intro b hb
    exact Due.precedes_below hPlace (hBelow _ b hb)
  unfold rowDues
  split
  · exact hWrite _ rfl
  · dsimp only
    split
    · exact hPairwise _
    · exact hWrite _ rfl
  · exact deletions_pairwise model hModel hRow
  · exact hPairwise _

mutual

theorem duesOf_pairwise (model : Model) (hModel : model.WellFormed) {root : Row}
    {rows : List Row} {place : Place} {above : Option WriteKind}
    (hRows : ∀ entry ∈ rows.zipIdx, rowAt? root ((model.name, entry.2) :: place) = some entry.1) :
    (duesOf place above rows model).Pairwise Due.Precedes := by
  cases model with
  | node entity children =>
    have hChildren := hModel.siblings
    have hBelow (entry : Row × Nat) (hEntry : entry ∈ rows.zipIdx) (kind : Option WriteKind) :
        ∀ due ∈ childDues ((entity.name, entry.2) :: place) kind entry.1 children,
          due.Below root ((entity.name, entry.2) :: place) kind children := by
      intro due hDue
      exact below_of_mem_childDues children hChildren (hRows entry hEntry) hDue
    rw [duesOf]
    apply pairwise_rows
    · intro entry hEntry due hDue
      exact under_of_mem_rowDues hModel (hRows entry hEntry) (hBelow entry hEntry) hDue
    · intro entry hEntry
      apply rowDues_pairwise hModel (hRows entry hEntry) (hBelow entry hEntry)
      intro kind
      exact childDues_pairwise children hChildren (hRows entry hEntry)

theorem childDues_pairwise (children : List Model) (hChildren : Siblings children)
    {root row : Row} {place : Place}
    {above : Option WriteKind} (hRow : rowAt? root place = some row) :
    (childDues place above row children).Pairwise Due.Precedes := by
  cases children with
  | nil => exact List.Pairwise.nil
  | cons child rest =>
    exact pairwise_models hChildren
      (fun _ hDue => under_of_mem_duesOf child hChildren.first
        (fun _ hEntry => rowAt?_cons hRow hEntry) hDue)
      (fun _ hDue => below_of_mem_childDues rest hChildren.tail hRow hDue)
      (duesOf_pairwise child hChildren.first fun _ hEntry => rowAt?_cons hRow hEntry)
      (childDues_pairwise rest hChildren.tail hRow)

end

theorem dues_pairwise {model : Model} (hModel : model.WellFormed) (rows : List Row) :
    (dues model rows).Pairwise Due.Precedes :=
  duesOf_pairwise model hModel rowAt?_rootOf

theorem places_nodup {model : Model} (hModel : model.WellFormed) (rows : List Row) :
    ((dues model rows).map (·.place)).Nodup := by
  apply List.pairwise_map.mpr
  apply (dues_pairwise hModel rows).imp
  intro a b h
  exact h.place_ne

/-- A save that does not fail executes what is due, all of it, in its order, and
nothing else. Each write is due for the row at its place and no two have one place. -/
theorem save_executes_dues {driver : Driver} {model : Model} (hModel : model.Compiled)
    {rows saved : List Row} {log : Log} (h : ((save driver model rows).run log).1 = .ok saved) :
    ∃ executed, ((save driver model rows).run log).2 = log ++ executed ∧
      List.Forall₂ Due.WrittenAs (dues model rows) executed ∧
      ((dues model rows).map (·.place)).Nodup ∧
      ∀ due ∈ dues model rows, rowAt? (rootOf model rows) due.place = some due.row := by
  obtain ⟨writes, hJournal⟩ := save_performs driver log hModel.wellFormed rows
  rw [show logAfter log [] = log from List.append_nil log] at hJournal
  have hAll := hJournal.complete ⟨saved, h⟩
  refine ⟨writes.map Write.statement, hJournal.later_eq, ?_, places_nodup hModel.wellFormed rows, ?_⟩
  · rw [← hAll, List.forall₂_map_left_iff, List.forall₂_map_right_iff, List.forall₂_same]
    intro write hWrite
    obtain ⟨before, after, hSplit⟩ := List.append_of_mem hWrite
    exact ⟨write.value, (hJournal.follows before write after hSplit).1.1⟩
  · intro due hDue
    obtain ⟨_, hUnder⟩ := exists_under_of_mem_dues hModel.wellFormed hDue
    exact hUnder.row_eq

namespace Family

open Schema.Family

/-- Gives inserted rows the keys from a hundred on, and finds one record for every
update and delete. -/
def accepting : Driver := fun log statement =>
  match statement with
  | .insert _ => .ok (.inserted 1 (some (UInt64.ofNat (100 + log.length))))
  | _ => .ok (.count 1)

def rowWith (state : Option RowState) (id : Option Value) (data : Record)
    (children : List (String × List Row)) : Row where
  data := data
  id := id
  state := state
  children := children

/-- A new person, one whose name changes, and one who goes with a known child, its
toy and a child that was never written. -/
def household : List Row :=
  [rowWith (some .inserted) none [("Name", .string "Ada")]
      [("Child", [rowWith (some .inserted) none [("Name", .string "Bo")] []])],
    rowWith (some .updated) (some (.int 2)) [("Name", .string "Cy")]
      [("Child", [rowWith none (some (.int 20)) []
        [("Toy", [rowWith (some .updated) (some (.int 21)) [] [],
          rowWith (some .inserted) none [] []])]])],
    rowWith (some .deleted) (some (.int 3)) []
      [("Child", [rowWith (some .inserted) none [] [], rowWith none (some (.int 30)) []
        [("Toy", [rowWith (some .inserted) (some (.int 31)) [] []])]])]]

def savedHousehold : List Row :=
  [rowWith none (some (.int 100)) [("Name", .string "Ada"), ("PersonID", .int 100)]
      [("Child", [{ rowWith none (some (.int 101)) [("Name", .string "Bo"), ("ParentID", .int 100),
        ("ChildID", .int 101)] [] with foreignKey := some (.int 100) }])],
    rowWith none (some (.int 2)) [("Name", .string "Cy")]
      [("Child", [rowWith none (some (.int 20)) []
        [("Toy", [rowWith none (some (.int 21)) [] [],
          rowWith none (some (.int 103)) [("ToyID", .int 103)] []])]])],
    rowWith none (some (.int 3)) []
      [("Child", [rowWith (some .inserted) none [] [], rowWith none (some (.int 30)) []
        [("Toy", [rowWith none (some (.int 31)) [] []])]])]]

/-- An update of the second person's toy has nothing to write. -/
theorem dues_household :
    (dues model household).map (fun due => (due.place, due.kind)) =
        [([("Person", 0)], .insert), ([("Child", 0), ("Person", 0)], .insert),
          ([("Person", 1)], .update), ([("Toy", 1), ("Child", 0), ("Person", 1)], .insert),
          ([("Toy", 0), ("Child", 1), ("Person", 2)], .delete),
          ([("Child", 1), ("Person", 2)], .delete), ([("Person", 2)], .delete)] ∧
      ∃ executed, ((save accepting model household).run []).2 = [] ++ executed ∧
        List.Forall₂ Due.WrittenAs (dues model household) executed ∧
        ((dues model household).map (·.place)).Nodup ∧
        ∀ due ∈ dues model household, rowAt? (rootOf model household) due.place = some due.row := by
  have hSaved : ((save accepting model household).run []).1 = .ok savedHousehold := rfl
  exact ⟨rfl, save_executes_dues model_compiled hSaved⟩

end Family

end RowTree
