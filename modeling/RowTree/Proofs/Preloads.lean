import RowTree.Compile
import Mathlib.Data.List.Induction
import Mathlib.Data.List.Nodup
import Mathlib.Data.List.Pairwise

/-!
# Tables that a builder preloads

A builder can build any number of compilers, and its catalog can be shared with others. A build hands
over the tables that were passed to the builder since the last one, to the shared catalog or, if
there is none, to a fresh one. So a compiler knows of the tables only those that were handed over to
its own catalog. These are all, if no build has handed tables over to another catalog; and if all
tables are new and have different names, they are all only then.
-/

namespace RowTree

open Schema

/-- Of the tables with a name the last one. -/
def lastNamed (tables : List Table) (name : String) : Option Table :=
  (tables.filter (·.name == name)).getLast?

/-- Every table is there under its name, of several with one name the last. -/
def Schema.Catalog.Knows (catalog : Catalog) (tables : List Table) : Prop :=
  ∀ name table, lastNamed tables name = some table → Entries.get? catalog name = some table

theorem lastNamed_append (tables others : List Table) (name : String) :
    lastNamed (tables ++ others) name =
      (lastNamed others name).or (lastNamed tables name) := by
  rw [lastNamed, List.filter_append, List.getLast?_append]
  rfl

theorem lastNamed_some {tables : List Table} {name : String} {table : Table}
    (h : lastNamed tables name = some table) : table ∈ tables ∧ table.name = name := by
  obtain ⟨hTable, hName⟩ := List.mem_filter.mp (List.mem_of_getLast? h)
  exact ⟨hTable, beq_iff_eq.mp hName⟩

theorem lastNamed_cons (table : Table) (rest : List Table) (name : String) :
    lastNamed (table :: rest) name =
      (lastNamed rest name).or (if table.name = name then some table else none) := by
  rw [← List.singleton_append, lastNamed_append]
  by_cases h : table.name = name <;> simp [lastNamed, h]

theorem lastNamed_of_nodup {tables : List Table} (hNames : (tables.map (·.name)).Nodup)
    {table : Table} (h : table ∈ tables) : lastNamed tables table.name = some table := by
  induction tables with
  | nil => cases h
  | cons first rest ih =>
    rw [List.map_cons, List.nodup_cons] at hNames
    rw [lastNamed_cons]
    rcases List.mem_cons.mp h with rfl | hRest
    · have hNone : lastNamed rest table.name = none := by
        rw [Option.eq_none_iff_forall_ne_some]
        intro other hOther
        obtain ⟨hLater, hName⟩ := lastNamed_some hOther
        exact hNames.1 (hName ▸ List.mem_map_of_mem hLater)
      rw [hNone, if_pos rfl, Option.none_or]
    · rw [ih hNames.2 hRest, Option.some_or]

theorem get?_addAll (catalog : Catalog) (tables : List Table) (name : String) :
    Entries.get? (catalog.addAll tables) name =
      (lastNamed tables name).or (Entries.get? catalog name) := by
  induction tables generalizing catalog with
  | nil => rfl
  | cons table rest ih =>
    have hFirst : Entries.get? (Entries.set catalog table.name table) name =
        (if table.name = name then some table else none).or (Entries.get? catalog name) := by
      by_cases h : table.name = name
      · subst h
        simp
      · simp [h, Entries.get?_set_of_ne catalog table h]
    rw [lastNamed_cons, Option.or_assoc, ← hFirst]
    exact ih _

namespace Builder

/-- A call of a builder. A catalog is told by its number among those that exist. -/
inductive Call where
  | table (t : Table)
  | useCatalog (number : Nat)
  | useProvider (provider : Provider)
  | build

def Call.table? : Call → Option Table
  | table t => some t
  | _ => none

/-- The tables that the calls pass. -/
def passed (calls : List Call) : List Table := calls.filterMap Call.table?

theorem passed_concat (calls : List Call) (call : Call) :
    passed (calls ++ [call]) = passed calls ++ call.table?.toList := by
  rw [passed, List.filterMap_append]
  cases call <;> rfl

/-- What a build handed over, and the number of the catalog that it handed it over to. -/
structure Handover where
  number : Nat
  tables : List Table

/-- A builder among the catalogs that exist. It may share one of them. -/
structure Workshop where
  catalogs : List Catalog
  builder : Builder := {}
  shared : Option Nat := none
  built : List Handover := []

namespace Workshop

/-- The number of the catalog of the next build. -/
def number (w : Workshop) : Nat := w.shared.getD w.catalogs.length

/-- What the compiler that is built next has in its catalog. -/
def next (w : Workshop) : Catalog := w.builder.build.1.catalog

/-- The tables that were handed over to a catalog. -/
def handedTo (w : Workshop) (number : Nat) : List Table :=
  (w.built.filter (·.number == number)).flatMap (·.tables)

/-- A build changes the shared catalog for all that share it, and without one makes a new catalog. A
number without a catalog changes nothing. -/
def step (w : Workshop) : Call → Workshop
  | .table t => { w with builder := w.builder.table t }
  | .useCatalog number =>
    match w.catalogs[number]? with
    | some catalog =>
      { w with builder := w.builder.useCatalog catalog, shared := some number }
    | none => w
  | .useProvider provider => { w with builder := w.builder.useProvider provider }
  | .build =>
    { catalogs :=
        match w.shared with
        | some number => w.catalogs.set number w.next
        | none => w.catalogs ++ [w.next]
      builder := w.builder.build.2
      shared := w.shared
      built := w.built ++ [⟨w.number, w.builder.tables⟩] }

/-- A new builder and the catalogs that there are for it, after some calls. -/
def run (catalogs : List Catalog) (calls : List Call) : Workshop := calls.foldl step { catalogs }

/-- What holds after calls: nothing that was passed is lost, the builder has the catalog that it
shares, and a catalog has what it had before and what was handed over to it. -/
structure Kept (start : List Catalog) (calls : List Call) (w : Workshop) : Prop where
  passed : passed calls = w.built.flatMap (·.tables) ++ w.builder.tables
  shared : w.builder.catalog = w.shared.bind (w.catalogs[·]?)
  exists_shared : ∀ number, w.shared = some number → number < w.catalogs.length
  start_le : start.length ≤ w.catalogs.length
  exists_built : ∀ handover ∈ w.built, handover.number < w.catalogs.length
  content : ∀ number catalog, w.catalogs[number]? = some catalog → ∀ name,
    Entries.get? catalog name =
      (lastNamed (w.handedTo number) name).or (Entries.get? (start.getD number []) name)

variable {start : List Catalog} {calls : List Call} {w : Workshop}

theorem kept_start (start : List Catalog) : Kept start [] { catalogs := start } where
  passed := rfl
  shared := rfl
  exists_shared := nofun
  start_le := Nat.le_refl _
  exists_built := nofun
  content number catalog hCatalog name := by
    rw [List.getD_eq_getElem?_getD, hCatalog]
    rfl

theorem handedTo_concat (w : Workshop) (handover : Handover) (number : Nat) :
    { w with built := w.built ++ [handover] }.handedTo number =
      w.handedTo number ++ if handover.number = number then handover.tables else [] := by
  by_cases h : handover.number = number <;> simp [handedTo, h]

theorem Kept.handedTo_eq_nil (h : w.Kept start calls) {number : Nat}
    (hFresh : w.catalogs.length ≤ number) : w.handedTo number = [] := by
  rw [handedTo, List.flatMap_eq_nil_iff]
  intro handover hHandover
  obtain ⟨hBuilt, hNumber⟩ := List.mem_filter.mp hHandover
  have hExists := h.exists_built handover hBuilt
  rw [beq_iff_eq.mp hNumber] at hExists
  omega

theorem Kept.get?_next (h : w.Kept start calls) (name : String) :
    Entries.get? w.next name =
      (lastNamed (w.handedTo w.number ++ w.builder.tables) name).or
        (Entries.get? (start.getD w.number []) name) := by
  have hNext : w.next = (w.builder.catalog.getD []).addAll w.builder.tables := rfl
  rw [hNext, get?_addAll, lastNamed_append, Option.or_assoc, h.shared, number]
  congr 1
  cases hShared : w.shared with
  | none =>
    -- The new catalog is empty, and nothing was handed over to its number before.
    have hNone : start.getD w.catalogs.length [] = [] := by
      rw [List.getD_eq_getElem?_getD, List.getElem?_eq_none h.start_le, Option.getD_none]
    rw [Option.getD_none, h.handedTo_eq_nil (Nat.le_refl _), hNone]
    rfl
  | some number =>
    have hCatalog := List.getElem?_eq_getElem (h.exists_shared number hShared)
    rw [Option.bind_some, Option.getD_some, hCatalog, Option.getD_some]
    exact h.content number _ hCatalog name

theorem Kept.getElem?_build (h : w.Kept start calls) :
    (w.step .build).catalogs[w.number]? = some w.next := by
  cases hShared : w.shared with
  | none =>
    simp only [step, number, hShared, Option.getD_none]
    exact List.getElem?_concat_length
  | some number =>
    simp only [step, Workshop.number, hShared, Option.getD_some]
    exact List.getElem?_set_self (h.exists_shared number hShared)

theorem getElem?_build_of_ne {number : Nat} (hOther : w.number ≠ number) :
    (w.step .build).catalogs[number]? = w.catalogs[number]? := by
  cases hShared : w.shared with
  | none =>
    rw [Workshop.number, hShared, Option.getD_none] at hOther
    simp only [step, hShared]
    rcases Nat.lt_or_gt_of_ne hOther with hBeyond | hBelow
    · rw [List.getElem?_eq_none (Nat.le_of_lt hBeyond), List.getElem?_eq_none (by simpa)]
    · exact List.getElem?_append_left hBelow
  | some shared =>
    rw [Workshop.number, hShared, Option.getD_some] at hOther
    simp only [step, hShared]
    exact List.getElem?_set_ne hOther

theorem length_le_build (w : Workshop) : w.catalogs.length ≤ (w.step .build).catalogs.length := by
  cases hShared : w.shared <;> simp [step, hShared]

theorem Kept.build (h : w.Kept start calls) : (w.step .build).Kept start (calls ++ [.build]) where
  passed := by
    have hBuilt : (w.step .build).built = w.built ++ [⟨w.number, w.builder.tables⟩] := rfl
    rw [passed_concat, h.passed, hBuilt, List.flatMap_append, List.flatMap_singleton]
    rfl
  shared := by
    have hCatalog : (w.step .build).builder.catalog =
        w.builder.catalog.map fun _ => w.next := rfl
    have hSame : (w.step .build).shared = w.shared := rfl
    rw [hCatalog, hSame, h.shared]
    cases hShared : w.shared with
    | none => rfl
    | some number =>
      have hBuild := h.getElem?_build
      rw [Workshop.number, hShared, Option.getD_some] at hBuild
      rw [Option.bind_some, Option.bind_some, hBuild,
        List.getElem?_eq_getElem (h.exists_shared number hShared)]
      rfl
  exists_shared number hNumber :=
    Nat.lt_of_lt_of_le (h.exists_shared number hNumber) w.length_le_build
  start_le := Nat.le_trans h.start_le w.length_le_build
  exists_built handover hHandover := by
    rcases List.mem_append.mp hHandover with hOld | hNew
    · exact Nat.lt_of_lt_of_le (h.exists_built handover hOld) w.length_le_build
    · rw [List.mem_singleton.mp hNew]
      exact (List.getElem?_eq_some_iff.mp h.getElem?_build).1
  content number catalog hCatalog name := by
    have hHanded : (w.step .build).handedTo number =
        w.handedTo number ++ if w.number = number then w.builder.tables else [] :=
      handedTo_concat w ⟨w.number, w.builder.tables⟩ number
    rw [hHanded]
    by_cases hNumber : w.number = number
    · subst hNumber
      rw [h.getElem?_build, Option.some.injEq] at hCatalog
      rw [if_pos rfl, ← hCatalog]
      exact h.get?_next name
    · rw [getElem?_build_of_ne hNumber] at hCatalog
      rw [if_neg hNumber, List.append_nil]
      exact h.content number catalog hCatalog name

theorem Kept.step (h : w.Kept start calls) (call : Call) :
    (w.step call).Kept start (calls ++ [call]) := by
  have hNothing (hNone : call.table? = none) :
      Builder.passed (calls ++ [call]) = w.built.flatMap (·.tables) ++ w.builder.tables := by
    rw [passed_concat, h.passed, hNone, Option.toList_none, List.append_nil]
  cases call with
  | table t =>
    exact { h with
      passed := by
        rw [passed_concat, h.passed, List.append_assoc]
        rfl }
  | useCatalog number =>
    rw [Workshop.step]
    split
    · rename_i catalog hCatalog
      exact { h with
        passed := hNothing rfl
        shared := by
          rw [Option.bind_some, hCatalog]
          rfl
        exists_shared := by
          rintro _ ⟨⟩
          exact (List.getElem?_eq_some_iff.mp hCatalog).1 }
    · exact { h with passed := hNothing rfl }
  | useProvider provider => exact { h with passed := hNothing rfl }
  | build => exact h.build

theorem kept_run (start : List Catalog) (calls : List Call) :
    (run start calls).Kept start calls := by
  induction calls using List.reverseRecOn with
  | nil => exact kept_start start
  | append_singleton calls call ih =>
    rw [run, List.foldl_append]
    exact ih.step call

/-- No build has handed tables over to another catalog than the one that is shared now. -/
def Faithful (w : Workshop) : Prop :=
  ∀ handover ∈ w.built, handover.tables ≠ [] → w.shared = some handover.number

theorem Faithful.handedTo_number (h : w.Faithful) :
    w.handedTo w.number = w.built.flatMap (·.tables) := by
  have hAll (built : List Handover)
      (h : ∀ handover ∈ built, handover.tables ≠ [] → w.shared = some handover.number) :
      (built.filter (·.number == w.number)).flatMap (·.tables) = built.flatMap (·.tables) := by
    induction built with
    | nil => rfl
    | cons handover rest ih =>
      obtain ⟨hFirst, hRest⟩ := List.forall_mem_cons.mp h
      rw [List.filter_cons]
      split
      · rw [List.flatMap_cons, List.flatMap_cons, ih hRest]
      · rename_i hOther
        have hNone : handover.tables = [] := by
          by_contra hSome
          rw [number, hFirst hSome, Option.getD_some] at hOther
          exact hOther (beq_self_eq_true _)
        rw [List.flatMap_cons, hNone, List.nil_append, ih hRest]
  exact hAll w.built h

theorem Kept.knows (h : w.Kept start calls) (hFaithful : w.Faithful) :
    w.next.Knows (Builder.passed calls) := by
  intro name table hLast
  rw [h.passed] at hLast
  rw [h.get?_next, hFaithful.handedTo_number, hLast, Option.some_or]

/-- A table that is passed once is handed over at most once, and it is not among those that are still
to be handed over. -/
theorem Kept.handover_unique (h : w.Kept start calls) (hOnce : (Builder.passed calls).Nodup)
    {handover : Handover} (hHandover : handover ∈ w.built) {table : Table}
    (hTable : table ∈ handover.tables) :
    table ∉ w.builder.tables ∧ ∀ other ∈ w.built, table ∈ other.tables → other = handover := by
  rw [h.passed, List.nodup_append', List.nodup_flatMap] at hOnce
  obtain ⟨⟨-, hBuilt⟩, -, hApart⟩ := hOnce
  refine ⟨fun hPending => ?_, fun other hOther hTable' => ?_⟩
  · exact hApart (List.mem_flatMap.mpr ⟨handover, hHandover, hTable⟩) hPending
  · have : Std.Symm (Function.onFun List.Disjoint Handover.tables) :=
      ⟨fun _ _ => List.disjoint_symm⟩
    by_contra hNe
    exact hBuilt.forall hOther hHandover hNe hTable' hTable

/-- If all tables have different names, and no catalog has known one of them from the start, then
they are known only where they were handed over. -/
theorem Kept.faithful (h : w.Kept start calls)
    (hNames : ((Builder.passed calls).map (·.name)).Nodup)
    (hStart : ∀ catalog ∈ start, ∀ table ∈ Builder.passed calls,
      Entries.get? catalog table.name = none)
    (hKnows : w.next.Knows (Builder.passed calls)) : w.Faithful := by
  intro handover hHandover hSome
  obtain ⟨table, hTable⟩ := List.exists_mem_of_ne_nil _ hSome
  have hBuilt : table ∈ w.built.flatMap (·.tables) :=
    List.mem_flatMap.mpr ⟨handover, hHandover, hTable⟩
  have hPassed : table ∈ Builder.passed calls := h.passed ▸ List.mem_append_left _ hBuilt
  have hUnknown : Entries.get? (start.getD w.number []) table.name = none := by
    rw [List.getD_eq_getElem?_getD]
    cases hCatalog : start[w.number]? with
    | none => rfl
    | some catalog => exact hStart catalog (List.mem_of_getElem? hCatalog) table hPassed
  have hHanded : table ∈ w.handedTo w.number ++ w.builder.tables := by
    have hKnown := hKnows _ _ (lastNamed_of_nodup hNames hPassed)
    rw [h.get?_next, hUnknown, Option.or_none] at hKnown
    exact (lastNamed_some hKnown).1
  obtain ⟨hNotPending, hUnique⟩ := h.handover_unique hNames.of_map hHandover hTable
  rcases List.mem_append.mp hHanded with hEarlier | hPending
  · obtain ⟨other, hOther, hTable'⟩ := List.mem_flatMap.mp hEarlier
    obtain ⟨hOther, hNumber⟩ := List.mem_filter.mp hOther
    have hExists := h.exists_built handover hHandover
    rw [hUnique other hOther hTable', beq_iff_eq] at hNumber
    rw [hNumber] at hExists ⊢
    -- A new catalog has a number that nothing was handed over to.
    cases hShared : w.shared with
    | none =>
      rw [number, hShared, Option.getD_none] at hExists
      exact absurd hExists (Nat.lt_irrefl _)
    | some shared => rw [number, hShared, Option.getD_some]
  · exact absurd hPending hNotPending

end Workshop

/-- After any calls, the next compiler knows under a name the last table that was handed over to its
catalog, now or before, or what was there. So it knows all tables that were passed, if none were
handed over to another catalog, and if they are new and have different names only then. -/
theorem preloads_known_iff (start : List Catalog) (calls : List Call) :
    (∀ name, Entries.get? (Workshop.run start calls).next name =
      (lastNamed ((Workshop.run start calls).handedTo (Workshop.run start calls).number ++
          (Workshop.run start calls).builder.tables) name).or
        (Entries.get? (start.getD (Workshop.run start calls).number []) name)) ∧
    ((Workshop.run start calls).Faithful →
      (Workshop.run start calls).next.Knows (passed calls)) ∧
    (((passed calls).map (·.name)).Nodup →
      (∀ catalog ∈ start, ∀ table ∈ passed calls, Entries.get? catalog table.name = none) →
      ((Workshop.run start calls).next.Knows (passed calls) ↔
        (Workshop.run start calls).Faithful)) := by
  have hKept := Workshop.kept_run start calls
  exact ⟨hKept.get?_next, hKept.knows,
    fun hNames hStart => ⟨hKept.faithful hNames hStart, hKept.knows⟩⟩

end Builder

namespace Towns

open Builder

def town : Table where
  name := "Town"
  storageName := "town"

def street : Table where
  name := "Street"
  storageName := "street"

/-- Two builds that share a catalog, the second one with a new table. -/
def sharing : List Call := [.useCatalog 0, .table town, .build, .table street]

theorem sharing_known :
    ((passed sharing).map (·.name)).Nodup ∧
    (∀ catalog ∈ [([] : Catalog)], ∀ table ∈ passed sharing,
      Entries.get? catalog table.name = none) ∧
    (Workshop.run [[]] sharing).Faithful ∧
    (Workshop.run [[]] sharing).next.Knows [town, street] ∧
    Entries.get? (Workshop.run [[]] sharing).next "Town" = some town := by
  have hNames : ((passed sharing).map (·.name)).Nodup := by decide
  have hStart : ∀ catalog ∈ [([] : Catalog)], ∀ table ∈ passed sharing,
      Entries.get? catalog table.name = none := by
    intro catalog hCatalog table _
    rw [List.mem_singleton.mp hCatalog]
    rfl
  have hFaithful : (Workshop.run [[]] sharing).Faithful := by
    intro handover hHandover _
    rw [List.mem_singleton.mp hHandover]
    rfl
  obtain ⟨hContent, -, hKnown⟩ := preloads_known_iff [[]] sharing
  exact ⟨hNames, hStart, hFaithful, (hKnown hNames hStart).mpr hFaithful, hContent "Town"⟩

/-- Without a shared catalog the second compiler is that of a new builder, which knows nothing. -/
theorem town_known_once :
    passed [.table town, .build] = [town] ∧
    (Workshop.run [] [.table town]).next.Knows [town] ∧
    (Workshop.run [] [.table town, .build]).builder = {} ∧
    (Workshop.run [] [.table town, .build]).next = [] ∧
    ¬(Workshop.run [] [.table town, .build]).next.Knows [town] := by
  refine ⟨rfl, ?_, rfl, rfl, fun h => ?_⟩
  · intro name table h
    obtain ⟨hTable, rfl⟩ := lastNamed_some h
    rw [List.mem_singleton.mp hTable]
    rfl
  · cases h "Town" town rfl

end Towns

end RowTree
