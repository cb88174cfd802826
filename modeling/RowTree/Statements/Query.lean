import RowTree.Schema.Model

/-!
# The query of an entity

One query reads all columns of an entity. Its condition is the entity's own
filter and then the caller's.
-/

namespace RowTree.Schema

open Sql

namespace JoinTerm

def sourceExpr : JoinSource → Expr
  | .column step storageName => .columnOf step storageName
  | .constant text => .literal text

def expr (step : Nat) (term : JoinTerm) : Expr :=
  .compare .equal (.columnOf step term.target) (sourceExpr term.source)

end JoinTerm

/-- The join of a step. With no terms at all every row matches. -/
def Step.toJoin (step : Step) : Sql.Join where
  kind := if step.required then .inner else .left
  table := step.join.table.storageName
  number := step.index
  condition := (Expr.all (step.join.terms.map (·.expr step.index))).getD (.value (.bool true))

def Field.selectItem? (field : Field) : Option SelectItem :=
  field.expr?.map fun e => ⟨e, field.name⟩

/-- An order entry whose field has a column. The ascending order is left to the
database. -/
def Entity.orderItem? (entity : Entity) (entry : OrderBy) : Option OrderItem :=
  ((entity.field? entry.field).bind Field.expr?).map fun e =>
    ⟨e, if entry.direction = .descending then some .descending else none⟩

/-- The query for the rows that a caller's filter lets through. Without any
column it selects all. A limit of zero is none. -/
def Entity.query (entity : Entity) (filter : Filter) (page : Option UInt64) : Query :=
  let items := entity.fields.filterMap Field.selectItem?
  {
    items := if items.isEmpty then none else some items
    table := entity.basisTable.storageName
    joins := entity.steps.map Step.toJoin
    filter := Filter.narrow ⟨entity.filter⟩ filter
    order := entity.orderBy.filterMap entity.orderItem?
    limit := (entity.limit.filter (0 < ·)).map (Limit.page · page) }

end RowTree.Schema
