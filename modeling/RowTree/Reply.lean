import RowTree.Error

/-!
# Replies of a database

What a statement gives back: a count of rows, the count and the new key of an
insert, or records.
-/

namespace RowTree

inductive Reply where
  | count (n : UInt64)
  /-- The key that the database assigned, if it assigned one. -/
  | inserted (count : UInt64) (lastId : Option UInt64)
  | records (records : List Record)

namespace Reply

/-- The reply to an insert; the key zero means that none was assigned. -/
def ofInsert (count lastId : UInt64) : Reply :=
  inserted count (if lastId = 0 then none else some lastId)

def isCount : Reply → Bool
  | count _ => true
  | _ => false

def isRecords : Reply → Bool
  | records _ => true
  | _ => false

def lastId? : Reply → Option UInt64
  | inserted _ lastId => lastId
  | _ => none

def toCount : Reply → Except Error UInt64
  | count n => .ok n
  | inserted n _ => .ok n
  | records rs => .error (.of (.remark (.recordsForCount rs.length)))

def toRecords : Reply → Except Error (List Record)
  | records rs => .ok rs
  | count n => .error (.of (.remark (.countForRecords n.toNat)))
  | inserted n lastId =>
    .error (.of (.remark (.insertForRecords n.toNat (lastId.map UInt64.toNat))))

end Reply

end RowTree
