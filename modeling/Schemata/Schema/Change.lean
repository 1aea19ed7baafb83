import Schemata.Json.Patch

/-!
# How a patch changes a table

A path pattern is one of 25 shapes of pointer into a schema: a table itself or
its `name` or `comment`; a column, index or constraint of it; or one field of
such an item. A pointer matches a pattern when it is `/tables/T` followed by
exactly the pattern's segments, where the table segment `T` and the item
segment are non-empty; the captured segments are unescaped like pointer
segments.

Of the operations of a patch that match a pattern for a given table (and
item), a `replace`, or both an `add` and a `remove`, make the object
*modified*; only adds make it *added*, only removes *removed*; none leave it
*unchanged*.
-/

namespace Schemata

/-- The shapes of pointer into a schema that changes are classified by. -/
inductive PathPattern where
  | tableBase | tableName | tableComment
  | columnBase | columnName | columnType | columnDefault | columnCheck | columnPrimary
  | columnNotNull | columnUnique | columnComment
  | indexBase | indexName | indexUnique | indexColumns | indexType
  | constraintBase | constraintName | constraintColumnNames | constraintDetail
  | constraintTargetTableName | constraintTargetColumnNames | constraintUpdateConstraint
  | constraintDeleteConstraint
deriving Repr, DecidableEq, Inhabited

namespace PathPattern

def all : List PathPattern :=
  [.tableBase, .tableName, .tableComment, .columnBase, .columnName, .columnType,
   .columnDefault, .columnCheck, .columnPrimary, .columnNotNull, .columnUnique,
   .columnComment, .indexBase, .indexName, .indexUnique, .indexColumns, .indexType,
   .constraintBase, .constraintName, .constraintColumnNames, .constraintDetail,
   .constraintTargetTableName, .constraintTargetColumnNames, .constraintUpdateConstraint,
   .constraintDeleteConstraint]

/-- The collection of a table the pattern reaches into, if any, and the field
it ends in, if any. -/
def layout : PathPattern → Option String × Option String
  | .tableBase => (none, none)
  | .tableName => (none, some "name")
  | .tableComment => (none, some "comment")
  | .columnBase => (some "columns", none)
  | .columnName => (some "columns", some "name")
  | .columnType => (some "columns", some "type")
  | .columnDefault => (some "columns", some "default")
  | .columnCheck => (some "columns", some "check")
  | .columnPrimary => (some "columns", some "primary")
  | .columnNotNull => (some "columns", some "notNull")
  | .columnUnique => (some "columns", some "unique")
  | .columnComment => (some "columns", some "comment")
  | .indexBase => (some "indexes", none)
  | .indexName => (some "indexes", some "name")
  | .indexUnique => (some "indexes", some "unique")
  | .indexColumns => (some "indexes", some "columns")
  | .indexType => (some "indexes", some "type")
  | .constraintBase => (some "constraints", none)
  | .constraintName => (some "constraints", some "name")
  | .constraintColumnNames => (some "constraints", some "columnNames")
  | .constraintDetail => (some "constraints", some "detail")
  | .constraintTargetTableName => (some "constraints", some "targetTableName")
  | .constraintTargetColumnNames => (some "constraints", some "targetColumnNames")
  | .constraintUpdateConstraint => (some "constraints", some "updateConstraint")
  | .constraintDeleteConstraint => (some "constraints", some "deleteConstraint")

/-- The name of a pattern, as in `ColumnNotNull`. -/
def name : PathPattern → String
  | .tableBase => "TableBase" | .tableName => "TableName" | .tableComment => "TableComment"
  | .columnBase => "ColumnBase" | .columnName => "ColumnName" | .columnType => "ColumnType"
  | .columnDefault => "ColumnDefault" | .columnCheck => "ColumnCheck"
  | .columnPrimary => "ColumnPrimary" | .columnNotNull => "ColumnNotNull"
  | .columnUnique => "ColumnUnique" | .columnComment => "ColumnComment"
  | .indexBase => "IndexBase" | .indexName => "IndexName" | .indexUnique => "IndexUnique"
  | .indexColumns => "IndexColumns" | .indexType => "IndexType"
  | .constraintBase => "ConstraintBase" | .constraintName => "ConstraintName"
  | .constraintColumnNames => "ConstraintColumnNames" | .constraintDetail => "ConstraintDetail"
  | .constraintTargetTableName => "ConstraintTargetTableName"
  | .constraintTargetColumnNames => "ConstraintTargetColumnNames"
  | .constraintUpdateConstraint => "ConstraintUpdateConstraint"
  | .constraintDeleteConstraint => "ConstraintDeleteConstraint"

def ofName? (s : String) : Option PathPattern := all.find? (·.name == s)

/-- The raw segments of a path after its leading `/`, if it has one. -/
def rawSegments (path : String) : Option (List String) :=
  match path.toList with
  | '/' :: rest => some ((Pointer.splitSlash rest).map String.ofList)
  | _ => none

/-- The unescaped table and item a path captures under the pattern. -/
def captures (p : PathPattern) (path : String) : Option (String × Option String) :=
  match rawSegments path with
  | some ("tables" :: t :: rest) =>
    if t.isEmpty then none
    else
      let table := Pointer.unescapeSegment t
      match p.layout, rest with
      | (none, none), [] => some (table, none)
      | (none, some f), [g] => if f == g then some (table, none) else none
      | (some s, none), [s', i] =>
        if s == s' && !i.isEmpty then some (table, some (Pointer.unescapeSegment i)) else none
      | (some s, some f), [s', i, g] =>
        if s == s' && f == g && !i.isEmpty then some (table, some (Pointer.unescapeSegment i))
        else none
      | _, _ => none
  | _ => none

end PathPattern

/-- How a patch changes one object. -/
inductive ChangeStatus where
  | added
  | removed
  | modified
  | unchanged
deriving Repr, DecidableEq, Inhabited

def ChangeStatus.name : ChangeStatus → String
  | .added => "added"
  | .removed => "removed"
  | .modified => "modified"
  | .unchanged => "unchanged"

/-- The status of table `table` (and item `item`, when given) under a pattern
after a patch. -/
def changeStatus (table : String) (ops : List PatchOp) (p : PathPattern) (item : Option String) :
    ChangeStatus :=
  let matching := ops.filter fun op =>
    match p.captures op.path with
    | some (t, i) => t == table && (match item with | some id => i == some id | none => true)
    | none => false
  let added := matching.any fun | .add .. => true | _ => false
  let removed := matching.any fun | .remove .. => true | _ => false
  let replaced := matching.any fun | .replace .. => true | _ => false
  if replaced || (added && removed) then .modified
  else if added then .added
  else if removed then .removed
  else .unchanged

end Schemata
