import RowTree.Statements.Query

/-!
# Pages

What a limit lets through of the rows that its query gives without it. The pages of a size, one
after the other, are the rows from the first one on: none is left out, and none is on two pages.
That the offset of a page stops at the greatest 64-bit number makes no difference, because there
are no rows beyond that one.
-/

namespace RowTree

open Schema Sql

variable {α : Type}

/-- The rows behind the offset, as many of them as the limit lets through. -/
def Limit.window (limit : Limit) (rows : List α) : List α :=
  (rows.drop (limit.offset.getD 0).toNat).take limit.limit.toNat

/-- The rows that a query gives, if without its limit it gives these. -/
def Sql.Query.window (q : Query) (rows : List α) : List α :=
  match q.limit with
  | some limit => limit.window rows
  | none => rows

/-- The numbers of the pages from the first to the last one. -/
def pageNumbers (last : UInt64) : List UInt64 :=
  (List.range last.toNat).map fun n => (n + 1).toUInt64

namespace Limit

theorem toNat_saturatingMul (a b : UInt64) :
    (saturatingMul a b).toNat = min (a.toNat * b.toNat) (UInt64.size - 1) := by
  rw [saturatingMul]
  exact UInt64.toNat_ofNat_of_lt' (by simp only [UInt64.size]; omega)

/-- The first page has no offset, which is the product for it as well. -/
theorem toNat_offset_page (limit : UInt64) {n : Nat} (h : n + 1 < UInt64.size) :
    ((page limit (some (n + 1).toUInt64)).offset.getD 0).toNat =
      min (limit.toNat * n) (UInt64.size - 1) := by
  have hNumber : (n + 1).toUInt64.toNat = n + 1 := UInt64.toNat_ofNat_of_lt' h
  have hFirst : 1 < (n + 1).toUInt64 ↔ 0 < n := by
    rw [UInt64.lt_iff_toNat_lt, hNumber]
    exact Nat.lt_add_left_iff_pos
  rcases Nat.eq_zero_or_pos n with rfl | hLater
  · simp [page]
  · have hBefore : ((n + 1).toUInt64 - 1).toNat = n := by
      rw [UInt64.toNat_sub_of_le _ _ (UInt64.le_of_lt (hFirst.mpr hLater)), hNumber]
      rfl
    simp only [page, if_pos (hFirst.mpr hLater), Option.getD_some, toNat_saturatingMul, hBefore]

theorem window_page (limit : UInt64) {n : Nat} (h : n + 1 < UInt64.size) {rows : List α}
    (hRows : rows.length < UInt64.size) :
    (page limit (some (n + 1).toUInt64)).window rows =
      (rows.drop (n * limit.toNat)).take limit.toNat := by
  have hDrop : rows.drop (min (limit.toNat * n) (UInt64.size - 1)) =
      rows.drop (n * limit.toNat) := by
    rw [Nat.mul_comm limit.toNat]
    rcases Nat.le_total (n * limit.toNat) (UInt64.size - 1) with hFits | hBeyond
    · rw [Nat.min_eq_left hFits]
    · rw [Nat.min_eq_right hBeyond, List.drop_eq_nil_of_le (by omega),
        List.drop_eq_nil_of_le (by omega)]
  rw [window, toNat_offset_page limit h, hDrop]
  rfl

/-- One page more adds the rows that come next. -/
theorem windows_tile (limit : UInt64) {rows : List α} (hRows : rows.length < UInt64.size) {k : Nat}
    (hPages : k < UInt64.size) :
    ((List.range k).flatMap fun n => (page limit (some (n + 1).toUInt64)).window rows) =
      rows.take (k * limit.toNat) := by
  induction k with
  | zero => simp
  | succ k ih =>
    calc
      _ = rows.take (k * limit.toNat) ++ (page limit (some (k + 1).toUInt64)).window rows := by
        rw [List.range_succ, List.flatMap_append, ih (by omega), List.flatMap_singleton]
      _ = rows.take (k * limit.toNat) ++ (rows.drop (k * limit.toNat)).take limit.toNat := by
        rw [window_page limit hPages hRows]
      _ = rows.take ((k + 1) * limit.toNat) := by rw [Nat.succ_mul, List.take_add]

end Limit

theorem limit_query {entity : Entity} {limit : UInt64} (h : entity.limit = some limit)
    (hSome : 0 < limit) (filter : Filter) (page : Option UInt64) :
    (entity.query filter page).limit = some (Limit.page limit page) := by
  have hKept : (some limit).filter (0 < ·) = some limit :=
    Option.filter_some_pos (by simpa using hSome)
  simp only [Entity.query, h, hKept, Option.map_some]

/-- The pages from the first to any other are together as many of the first rows as fit on them, or
all rows if there are fewer. The queries of an entity with a limit give these pages. -/
theorem pages_tile {limit : UInt64} (hLimit : 0 < limit) {rows : List α}
    (hRows : rows.length < UInt64.size) (last : UInt64) :
    ((pageNumbers last).flatMap fun page => (Limit.page limit (some page)).window rows) =
      rows.take (last.toNat * limit.toNat) ∧
    ∀ (entity : Entity) (filter : Filter), entity.limit = some limit →
      ((pageNumbers last).flatMap fun page => (entity.query filter (some page)).window rows) =
        rows.take (last.toNat * limit.toNat) := by
  have hTiled : ((pageNumbers last).flatMap fun page =>
      (Limit.page limit (some page)).window rows) = rows.take (last.toNat * limit.toNat) := by
    rw [pageNumbers, List.flatMap_map]
    exact Limit.windows_tile limit hRows last.toNat_lt
  refine ⟨hTiled, fun entity filter hEntity => ?_⟩
  rw [← hTiled]
  refine congrArg (pageNumbers last).flatMap (funext fun page => ?_)
  rw [Query.window, limit_query hEntity hLimit]

/-- Towns, so many on a page that the offset of the third page is beyond the 64-bit numbers. -/
def largePages : Entity where
  name := "Town"
  basisTable := ⟨"Town", "town"⟩
  limit := some 0x8000000000000000

theorem large_pages_tile :
    (0 : UInt64) < 0x8000000000000000 ∧ ["Bandon", "Cork", "Youghal"].length < UInt64.size ∧
    largePages.limit = some 0x8000000000000000 ∧
    (Limit.page 0x8000000000000000 (some 3)).offset = some 0xFFFFFFFFFFFFFFFF ∧
    ((pageNumbers 3).flatMap fun page =>
      (largePages.query {} (some page)).window ["Bandon", "Cork", "Youghal"]) =
        ["Bandon", "Cork", "Youghal"] := by
  have hLimit : (0 : UInt64) < 0x8000000000000000 := by decide
  have hRows : ["Bandon", "Cork", "Youghal"].length < UInt64.size := by decide
  obtain ⟨-, hQueries⟩ := pages_tile hLimit hRows 3
  exact ⟨hLimit, hRows, rfl, by decide, hQueries largePages {} rfl⟩

end RowTree
