import RowTree.Proofs.Order

/-!
# Cascading deletes

A deleted row goes after all rows under it. The deletes that are executed are the
first ones of the rows from the bottom up, whatever the driver replies: after a
delete that does not remove one record there is no other, and of a row without an
id neither the row nor anything under it or after it is deleted.
-/

namespace RowTree

open Schema Sql

/-- The count of records that the reply to a delete tells. -/
def Write.deleted (write : Write) : Except Error UInt64 := write.reply >>= Reply.toCount

/-- The statement deletes, from the basis table of the row's entity, the records that have the id
of the row in the key column. -/
def Write.RemovesRow (write : Write) : Prop :=
  ∃ key id column, write.due.entity.instanceKey? = some key ∧
    Value.present? write.due.row.id = some id ∧ key.storageName? = some column ∧
    write.statement = .delete {
      table := write.due.entity.basisTable.storageName
      filter := ⟨some (.compare .equal (.bareColumn column) (.value id))⟩ }

/-- What a cascading delete did that was started after `log` and led to the log `later`.
The rows that it comes to are those of `dues`; it ended well if `finished`. -/
structure Cascade (driver : Driver) (log : Log) (dues : List Due) (finished : Prop)
    (later : Log) (writes : List Write) : Prop where
  later_eq : later = logAfter log writes
  due : writes.map (·.due) <+: dues
  deletes : ∀ write ∈ writes, write.RemovesRow
  replies : ∀ before write after, writes = before ++ write :: after →
    write.reply = driver (logAfter log before) write.statement ∧
      (after ≠ [] → write.deleted = .ok 1)
  finished_iff : finished ↔
    writes.map (·.due) = dues ∧ ∀ write ∈ writes, write.deleted = .ok 1
  /-- Where a row has no id, neither it nor any row under it is deleted. -/
  lost : ∀ due ∈ dues, Value.present? due.row.id = none →
    ∀ write ∈ writes, ¬due.place <:+ write.due.place

/-- None of the later rows that have no id has one of the earlier rows under it. -/
def Due.Apart (earlier later : List Due) : Prop :=
  ∀ due ∈ later, Value.present? due.row.id = none →
    ∀ other ∈ earlier, ¬due.place <:+ other.place

/-- Started after any log, the session is a cascading delete of the rows. -/
def Cascades {α : Type} (driver : Driver) (dues : List Due) (session : Session α) : Prop :=
  ∀ log, ∃ writes, Cascade driver log dues (∃ v, (session.run log).1 = .ok v)
    (session.run log).2 writes

section

variable {driver : Driver} {log later : Log}

namespace Cascade

variable {dues more : List Due} {finished : Prop} {writes : List Write}

theorem nothing (hFinished : finished ↔ dues = []) :
    Cascade driver log dues finished log [] where
  later_eq := (List.append_nil log).symm
  due := List.nil_prefix
  deletes write h := by cases h
  replies before write after h := by simp at h
  finished_iff := by
    rw [hFinished, List.map_nil]
    exact ⟨fun h => ⟨h.symm, fun _ h => by cases h⟩, fun h => h.1.symm⟩
  lost due _ _ write h := by cases h

theorem due_mem (h : Cascade driver log dues finished later writes) {write : Write}
    (hWrite : write ∈ writes) : write.due ∈ dues :=
  h.due.subset (List.mem_map_of_mem hWrite)

/-- A cascade that did not end well keeps all later rows from being deleted. -/
theorem stop (h : Cascade driver log dues finished later writes) (hFailed : ¬finished)
    (hApart : Due.Apart dues more) : Cascade driver log (dues ++ more) False later writes where
  later_eq := h.later_eq
  due := h.due.trans (List.prefix_append _ _)
  deletes := h.deletes
  replies := h.replies
  finished_iff := by
    refine ⟨False.elim, fun ⟨hAll, hOne⟩ => hFailed (h.finished_iff.mpr ⟨?_, hOne⟩)⟩
    have hLength := h.due.length_le
    rw [hAll, List.length_append] at hLength
    have hNil : more = [] := List.eq_nil_of_length_eq_zero (by omega)
    rw [hAll, hNil, List.append_nil]
  lost due hDue hId write hWrite := by
    rcases List.mem_append.mp hDue with hDue | hDue
    · exact h.lost due hDue hId write hWrite
    · exact hApart due hDue hId _ (h.due_mem hWrite)

theorem append {finished' : Prop} {last : Log} {writes' : List Write}
    (h : Cascade driver log dues True (logAfter log writes) writes)
    (h' : Cascade driver (logAfter log writes) more finished' last writes')
    (hApart : Due.Apart dues more) :
    Cascade driver log (dues ++ more) finished' last (writes ++ writes') where
  later_eq := by rw [h'.later_eq, logAfter_append, logAfter]
  due := by
    rw [List.map_append, (h.finished_iff.mp trivial).1]
    exact (List.prefix_append_right_inj dues).mpr h'.due
  deletes write hWrite := by
    rcases List.mem_append.mp hWrite with hWrite | hWrite
    · exact h.deletes write hWrite
    · exact h'.deletes write hWrite
  replies before write after hSplit := by
    have hOne := (h.finished_iff.mp trivial).2
    rcases List.append_eq_append_iff.mp hSplit with ⟨rest, rfl, hRest⟩ | ⟨rest, hBefore, hAfter⟩
    · rw [logAfter_append]
      exact h'.replies rest write after hRest
    · cases rest with
      | nil =>
        rw [List.append_nil] at hBefore
        subst hBefore
        have hFirst := h'.replies [] write after hAfter.symm
        rwa [show logAfter (logAfter log writes) [] = logAfter log writes from
          List.append_nil _] at hFirst
      | cons first rest =>
        cases hAfter
        have hWrite : write ∈ writes := hBefore ▸ List.mem_append_right _ List.mem_cons_self
        exact ⟨(h.replies before write rest hBefore).1, fun _ => hOne write hWrite⟩
  finished_iff := by
    obtain ⟨hAll, hOne⟩ := h.finished_iff.mp trivial
    rw [h'.finished_iff, List.map_append, hAll, List.append_cancel_left_eq]
    refine and_congr_right fun _ => ⟨fun h => ?_, fun h write hWrite => ?_⟩
    · intro write hWrite
      rcases List.mem_append.mp hWrite with hWrite | hWrite
      · exact hOne write hWrite
      · exact h write hWrite
    · exact h write (List.mem_append_right _ hWrite)
  lost due hDue hId write hWrite := by
    rcases List.mem_append.mp hDue with hDue | hDue
    · -- All of the earlier rows were deleted, so this one has an id.
      have hAll := (h.finished_iff.mp trivial).1
      rw [← hAll] at hDue
      obtain ⟨own, hOwn, rfl⟩ := List.mem_map.mp hDue
      exact absurd (List.suffix_refl _) (h.lost own.due (h.due_mem hOwn) hId own hOwn)
    · rcases List.mem_append.mp hWrite with hWrite | hWrite
      · exact hApart due hDue hId _ (h.due_mem hWrite)
      · exact h'.lost due hDue hId write hWrite

end Cascade

namespace Cascades

variable {α β : Type} {dues more : List Due}

theorem pure (v : α) : Cascades driver [] (Pure.pure v : Session α) := by
  intro log
  exact ⟨[], .nothing ⟨fun _ => rfl, fun _ => ⟨v, rfl⟩⟩⟩

theorem bind {session : Session α} {next : α → Session β} (h : Cascades driver dues session)
    (hNext : ∀ v, Cascades driver more (next v)) (hApart : Due.Apart dues more) :
    Cascades driver (dues ++ more) (session >>= next) := by
  intro log
  obtain ⟨writes, h⟩ := h log
  rw [Session.run_bind]
  rcases hRun : session.run log with ⟨_ | v, later⟩
  · rw [hRun] at h
    refine ⟨writes, ?_⟩
    simpa using h.stop (by simp) hApart
  · rw [hRun] at h
    have hLater : later = logAfter log writes := h.later_eq
    subst hLater
    obtain ⟨writes', h'⟩ := hNext v (logAfter log writes)
    refine ⟨writes ++ writes', Cascade.append ?_ h' hApart⟩
    simpa using h

theorem afterCheck {result : Except Error α} {next : α → Session β} (hDues : dues ≠ [])
    (h : ∀ v, result = .ok v → Cascades driver dues (next v)) :
    Cascades driver dues (Session.ofExcept result >>= next) := by
  cases result with
  | error e =>
    intro log
    refine ⟨[], .nothing ⟨?_, fun h => absurd h hDues⟩⟩
    rintro ⟨_, h⟩
    cases h
  | ok v => exact h v rfl

theorem mapM {part : α → List Due} {f : α → Session β} {xs : List α}
    (h : ∀ x ∈ xs, Cascades driver (part x) (f x))
    (hApart : xs.Pairwise fun x y => Due.Apart (part x) (part y)) :
    Cascades driver (xs.flatMap part) (xs.mapM f) := by
  induction xs with
  | nil =>
    rw [List.mapM_nil]
    exact Cascades.pure []
  | cons x xs ih =>
    rw [List.mapM_cons, List.flatMap_cons]
    obtain ⟨hFirst, hRest⟩ := List.pairwise_cons.mp hApart
    refine (h x List.mem_cons_self).bind (fun v => ?_) ?_
    · have hOthers := ih (fun y hy => h y (List.mem_cons_of_mem _ hy)) hRest
      have hBoth : Cascades driver (xs.flatMap part ++ [])
          (xs.mapM f >>= fun vs => Pure.pure (v :: vs)) :=
        hOthers.bind (fun _ => Cascades.pure _) fun _ hDue => by cases hDue
      rwa [List.append_nil] at hBoth
    · intro due hDue
      obtain ⟨y, hy, hDue⟩ := List.mem_flatMap.mp hDue
      exact hFirst y hy due hDue

end Cascades

theorem checkDeleted_eq_ok_iff {entity : Entity} {row : Row} {reply : Reply} :
    checkDeleted entity row reply = .ok () ↔ reply.toCount = .ok 1 := by
  rw [checkDeleted, Outcome.bind_eq_ok]
  constructor
  · rintro ⟨count, hCount, h⟩
    split at h
    · rename_i hOne
      rw [hCount, hOne]
    · cases h
  · intro h
    exact ⟨1, h, if_pos rfl⟩

theorem delete_eq_ok_iff {entity : Entity} {row : Row} {delete : Delete} :
    entity.delete row = .ok delete ↔ ∃ key id column, entity.instanceKey? = some key ∧
      Value.present? row.id = some id ∧ key.storageName? = some column ∧
      delete = {
        table := entity.basisTable.storageName
        filter := ⟨some (.compare .equal (.bareColumn column) (.value id))⟩ } := by
  rw [Entity.delete, Outcome.bind_eq_ok]
  constructor
  · rintro ⟨filter, hFilter, hDelete⟩
    obtain ⟨key, id, column, hKey, hId, hColumn, rfl⟩ := Entity.keyFilter_eq_ok_iff.mp hFilter
    exact ⟨key, id, column, hKey, hId, hColumn, (Except.ok.inj hDelete).symm⟩
  · rintro ⟨key, id, column, hKey, hId, hColumn, rfl⟩
    exact ⟨_, Entity.keyFilter_eq_ok_iff.mpr ⟨key, id, column, hKey, hId, hColumn, rfl⟩, rfl⟩

theorem delete_of_no_id {entity : Entity} {row : Row} (h : Value.present? row.id = none)
    {delete : Delete} : entity.delete row ≠ .ok delete := by
  intro hDelete
  obtain ⟨_, id, _, _, hId, _⟩ := delete_eq_ok_iff.mp hDelete
  rw [h] at hId
  cases hId

theorem run_own (entity : Entity) (row saved : Row) (delete : Delete) (log : Log) :
    Session.run (driver.execute (.delete delete) >>= fun reply =>
      Session.ofExcept (checkDeleted entity row reply) >>= fun _ => Pure.pure saved) log =
      (driver log (.delete delete) >>= fun reply =>
        checkDeleted entity row reply >>= fun _ => .ok saved, log ++ [.delete delete]) := by
  have hRun : (driver.execute (.delete delete)).run log =
      (driver log (.delete delete), log ++ [.delete delete]) := rfl
  rw [Session.run_bind, hRun]
  cases driver log (.delete delete) with
  | error e => rfl
  | ok reply =>
    dsimp only
    rw [Session.run_bind, Session.run_ofExcept]
    cases hChecked : checkDeleted entity row reply with
    | error e => simp only [bind, Except.bind, hChecked]
    | ok v => simp only [bind, Except.bind, hChecked, Session.run_pure]

/-- The last step of a cascade, which deletes the row that it began with. -/
theorem cascades_own {due : Due} {delete : Delete} {saved : Row}
    (hDelete : due.entity.delete due.row = .ok delete) :
    Cascades driver [due] (driver.execute (.delete delete) >>= fun reply =>
      Session.ofExcept (checkDeleted due.entity due.row reply) >>= fun _ =>
        Pure.pure saved) := by
  intro log
  rw [run_own]
  refine ⟨[⟨due, .null, .delete delete, driver log (.delete delete)⟩], rfl, List.prefix_refl _,
    ?_, ?_, ?_, ?_⟩
  · intro write hWrite
    cases List.mem_singleton.mp hWrite
    obtain ⟨key, id, column, hKey, hId, hColumn, rfl⟩ := delete_eq_ok_iff.mp hDelete
    exact ⟨key, id, column, hKey, hId, hColumn, rfl⟩
  · intro before write after hSplit
    cases before with
    | nil =>
      cases hSplit
      rw [logAfter, List.map_nil, List.append_nil]
      exact ⟨rfl, fun h => absurd rfl h⟩
    | cons first rest => simp at hSplit
  · rw [List.map_singleton, List.forall_mem_singleton, Write.deleted]
    simp only [true_and, Outcome.bind_eq_ok]
    constructor
    · rintro ⟨_, reply, hReply, _, hChecked, _⟩
      exact ⟨reply, hReply, checkDeleted_eq_ok_iff.mp hChecked⟩
    · rintro ⟨reply, hReply, hCount⟩
      exact ⟨saved, reply, hReply, (), checkDeleted_eq_ok_iff.mpr hCount, rfl⟩
  · intro other hOther hId
    cases List.mem_singleton.mp hOther
    exact absurd hDelete (delete_of_no_id hId)

theorem Due.Under.not_suffix_of_ne {root : Row} {place : Place} {above above' : Option WriteKind}
    {entity entity' : Entity} {a b : Due} {entry other : String × Nat}
    (ha : a.Under root (entry :: place) above entity)
    (hb : b.Under root (other :: place) above' entity') (hNe : entry ≠ other) :
    ¬a.place <:+ b.place := by
  intro h
  exact hNe (head_eq_of_suffix (ha.suffix.trans h) hb.suffix)

mutual

theorem deleteRow_cascades (model : Model) (hModel : model.WellFormed) {root row : Row}
    {place : Place} {above : Option WriteKind} (hRow : rowAt? root place = some row) :
    Cascades driver (deletions place above row model) (deleteRow driver row model) := by
  cases model with
  | node entity children =>
    rw [deleteRow_node, deletions]
    refine Cascades.afterCheck (by simp) fun delete hDelete => ?_
    refine (deleteChildren_cascades children hModel.siblings hRow fun _ _ => rfl).bind
      (fun saved => ?_) ?_
    · let own : Due := ⟨place, .delete, entity, row, above⟩
      have hOwn : own.entity.delete own.row = .ok delete := hDelete
      exact cascades_own hOwn
    · intro due hDue hId
      cases List.mem_singleton.mp hDue
      exact absurd hDelete (delete_of_no_id hId)

theorem deleteChildren_cascades (children : List Model) (hChildren : Siblings children)
    {root row current : Row} {place : Place} (hRow : rowAt? root place = some row)
    (hRows : ∀ child ∈ children, current.childRows? child.name = row.childRows? child.name) :
    Cascades driver (deletionsUnder place row children)
      (deleteChildren driver current children) := by
  cases children with
  | nil => exact Cascades.pure _
  | cons child rest =>
    rw [deleteChildren_cons, deletionsUnder, hRows child List.mem_cons_self]
    cases hChild : row.childRows? child.name with
    | none =>
      exact deleteChildren_cascades rest hChildren.tail hRow fun c hc =>
        hRows c (List.mem_cons_of_mem _ hc)
    | some rows =>
      simp only [Option.getD_some]
      rw [mapM_zipIdx]
      have hEntry : ∀ entry ∈ rows.zipIdx,
          rowAt? root ((child.name, entry.2) :: place) = some entry.1 := by
        intro entry hEntry
        apply rowAt?_cons hRow
        rw [hChild]
        exact hEntry
      have hUnder : ∀ entry ∈ rows.zipIdx, ∀ due ∈ (if entry.1.isUnsaved then []
          else deletions ((child.name, entry.2) :: place) none entry.1 child),
          due.Under root ((child.name, entry.2) :: place) none child.entity := by
        intro entry hMem due hDue
        split at hDue
        · cases hDue
        · exact under_of_mem_deletions child hChildren.first (hEntry entry hMem) hDue
      refine Cascades.bind (Cascades.mapM (fun entry hMem => ?_) ?_) (fun saved => ?_) ?_
      · cases hUnsaved : entry.1.isUnsaved with
        | true => exact Cascades.pure _
        | false => exact deleteRow_cascades child hChildren.first (hEntry entry hMem)
      · apply (pairwise_snd_ne rows).imp_of_mem
        intro first second hFirst hSecond hNe due hDue _ other hOther
        apply (hUnder second hSecond due hDue).not_suffix_of_ne (hUnder first hFirst other hOther)
        intro hSame
        exact hNe (Prod.mk.inj hSame).2.symm
      · refine deleteChildren_cascades rest hChildren.tail hRow fun c hc => ?_
        rw [childRows?_setChildRows_of_ne saved (hChildren.name_ne hc)]
        exact hRows c (List.mem_cons_of_mem _ hc)
      · intro due hDue _ other hOther
        obtain ⟨entry, hMem, hOther⟩ := List.mem_flatMap.mp hOther
        obtain ⟨c, hc, i, hBelow⟩ := below_of_mem_deletionsUnder rest hChildren.tail hRow hDue
        apply hBelow.not_suffix_of_ne (hUnder entry hMem other hOther)
        intro hSame
        exact hChildren.name_ne hc (Prod.mk.inj hSame).1.symm

end

end

/-- A save of a deleted row executes deletes only, each of one row by its id: of the rows under it
and then of itself. It ends with the first that does not delete one record. The row is saved if
and only if all of them did. -/
theorem deleted_row_cascades (driver : Driver) {top : Model} (hTop : top.Compiled)
    {entity : Entity} {children : List Model} (hWithin : top.Within (.node entity children))
    {row : Row} (hState : row.state = some .deleted) (log : Log) :
    ∃ writes, Cascade driver log (deletions [] none row (.node entity children))
      (∃ saved, ((saveRow driver entity children row).run log).1 = .ok saved)
      ((saveRow driver entity children row).run log).2 writes := by
  have hModel := hTop.wellFormed.within hWithin
  rw [saveRow, hState]
  exact deleteRow_cascades (.node entity children) hModel rfl log

namespace Family

open Schema.Family

/-- Finds every record but those of children. -/
def childless : Driver := fun _ statement =>
  .ok (.count (if statement.table = "child" then 0 else 1))

/-- A deleted person with two known children, of whom the first has a toy, and a child that
was never written. -/
def removed : Row :=
  rowWith (some .deleted) (some (.int 3)) []
    [("Child", [rowWith (some .inserted) none [] [],
      rowWith none (some (.int 30)) [] [("Toy", [rowWith none (some (.int 31)) [] []])],
      rowWith (some .updated) (some (.int 32)) [] []])]

/-- The toy goes, the first child cannot be found, and so the second child and the person stay. -/
theorem removed_cascades :
    (deletions [] none removed model).map (·.place) =
        [[("Toy", 0), ("Child", 1)], [("Child", 1)], [("Child", 2)], []] ∧
      ((saveRow childless person [.node child [.node toy []]] removed).run []).2 =
        [.delete ⟨"toy", ⟨some (.compare .equal (.bareColumn "id") (.value (.int 31)))⟩⟩,
          .delete ⟨"child", ⟨some (.compare .equal (.bareColumn "id") (.value (.int 30)))⟩⟩] ∧
      ∃ writes, Cascade childless [] (deletions [] none removed model)
        (∃ saved, ((saveRow childless person [.node child [.node toy []]] removed).run []).1 =
          .ok saved)
        ((saveRow childless person [.node child [.node toy []]] removed).run []).2 writes :=
  ⟨rfl, rfl, deleted_row_cascades childless model_compiled .self rfl []⟩

end Family

end RowTree
