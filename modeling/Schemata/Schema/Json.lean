import Schemata.Schema.Basic
import Schemata.Json.Reader

/-!
# Schemas as JSON

The JSON form of a schema, and its reading back. Records are written with
their fields in a fixed order: a table as `name`, `columns`, `indexes`,
`constraints`, `comment`; a column as `name`, `type`, `default`, `check`,
`primary`, `notNull`, `unique`, `comment`; a constraint with its `type` tag
first. Absent optional values are `null`, and so is a default that is a double
but not finite.

On reading, every collection and most fields may be missing (empty, `false`,
`null`, `""`, `NO_ACTION`, `ONE_TO_MANY`), but names, a column's type, an
index's columns and the fields of each constraint kind are required. A default
is read as the first that fits of a boolean, a 64-bit integer, a double and a
string.
-/

namespace Schemata

open Json

/-! ## Writing -/

def DefaultValue.toJson : DefaultValue → Json
  | .bool b => .bool b
  | .int n => if n ≥ 0 then .num (.nat n.toNat) else .num (.negInt n)
  | .float x => if x.isFinite then .num (.float x) else .null
  | .text s => .str s

def optText : Option String → Json
  | some s => .str s
  | none => .null

def textList (xs : List String) : Json := .arr (xs.map .str)

def Column.toJson (c : Column) : Json :=
  .obj [("name", .str c.name), ("type", .str c.type),
    ("default", match c.default with | some d => d.toJson | none => .null),
    ("check", optText c.check), ("primary", .bool c.primary), ("notNull", .bool c.notNull),
    ("unique", .bool c.unique), ("comment", optText c.comment)]

def Index.toJson (i : Index) : Json :=
  .obj [("name", .str i.name), ("columns", textList i.columns), ("unique", .bool i.unique),
    ("type", .str i.method)]

def Constraint.toJson : Constraint → Json
  | .primaryKey n cs => .obj [("type", .str "PRIMARY KEY"), ("name", .str n), ("columnNames", textList cs)]
  | .unique n cs => .obj [("type", .str "UNIQUE"), ("name", .str n), ("columnNames", textList cs)]
  | .check n d => .obj [("type", .str "CHECK"), ("name", .str n), ("detail", .str d)]
  | .foreignKey n cs t tcs u d =>
    .obj [("type", .str "FOREIGN KEY"), ("name", .str n), ("columnNames", textList cs),
      ("targetTableName", .str t), ("targetColumnNames", textList tcs),
      ("updateConstraint", .str u.jsonName), ("deleteConstraint", .str d.jsonName)]

def NameMap.toJson {α : Type} (f : α → Json) (m : NameMap α) : Json :=
  .obj (m.entries.map fun (k, v) => (k, f v))

def Table.toJson (t : Table) : Json :=
  .obj [("name", .str t.name), ("columns", t.columns.toJson Column.toJson),
    ("indexes", t.indexes.toJson Index.toJson),
    ("constraints", t.constraints.toJson Constraint.toJson), ("comment", optText t.comment)]

def Relationship.toJson (r : Relationship) : Json :=
  .obj [("name", .str r.name), ("primaryTableName", .str r.primaryTable),
    ("primaryColumnName", .str r.primaryColumn), ("foreignTableName", .str r.foreignTable),
    ("foreignColumnName", .str r.foreignColumn), ("cardinality", .str r.cardinality.jsonName),
    ("updateConstraint", .str r.onUpdate.jsonName), ("deleteConstraint", .str r.onDelete.jsonName)]

def TableGroup.toJson (g : TableGroup) : Json :=
  .obj [("name", .str g.name), ("tables", textList g.tables), ("comment", optText g.comment)]

def EnumType.toJson (e : EnumType) : Json :=
  .obj [("name", .str e.name), ("values", textList e.values), ("comment", optText e.comment)]

def Extension.toJson (e : Extension) : Json := .obj [("name", .str e.name)]

def Schema.toJson (s : Schema) : Json :=
  .obj [("tables", s.tables.toJson Table.toJson),
    ("relationships", s.relationships.toJson Relationship.toJson),
    ("tableGroups", s.tableGroups.toJson TableGroup.toJson),
    ("enums", s.enums.toJson EnumType.toJson),
    ("extensions", s.extensions.toJson Extension.toJson)]

/-! ## Shapes -/

namespace SchemaShape

def action : Shape := .keyword (Action.all.map Action.jsonName)

def actionField : Shape := .fallback (.str "NO_ACTION") action

def cardinality : Shape := .keyword ["ONE_TO_ONE", "ONE_TO_MANY"]

def defaultValue : Shape := .untagged "ColumnDefault" [.flag, .int64, .float64, .text]

def optionalText : Shape := .fallback .null (.opt .text)

def flagField : Shape := .fallback (.bool false) .flag

def textList : Shape := .seq .text

def column : Shape :=
  .record "Column" [("name", .text), ("type", .text),
    ("default", .fallback .null (.opt defaultValue)), ("check", optionalText),
    ("primary", flagField), ("notNull", flagField), ("unique", flagField),
    ("comment", optionalText)]

def index : Shape :=
  .record "Index" [("name", .text), ("columns", textList), ("unique", flagField),
    ("type", .fallback (.str "") .text)]

def constraint : Shape :=
  .tagged "Constraint" "type"
    [("PRIMARY KEY", "PrimaryKey", [("name", .text), ("columnNames", textList)]),
     ("UNIQUE", "Unique", [("name", .text), ("columnNames", textList)]),
     ("CHECK", "Check", [("name", .text), ("detail", .text)]),
     ("FOREIGN KEY", "ForeignKey", [("name", .text), ("columnNames", textList),
        ("targetTableName", .text), ("targetColumnNames", textList),
        ("updateConstraint", actionField), ("deleteConstraint", actionField)])]

def emptyMap : Json := .obj []

def table : Shape :=
  .record "Table" [("name", .text), ("columns", .fallback emptyMap (.dict column)),
    ("indexes", .fallback emptyMap (.dict index)),
    ("constraints", .fallback emptyMap (.dict constraint)), ("comment", optionalText)]

def relationship : Shape :=
  .record "Relationship" [("name", .text), ("primaryTableName", .text),
    ("primaryColumnName", .text), ("foreignTableName", .text), ("foreignColumnName", .text),
    ("cardinality", .fallback (.str "ONE_TO_MANY") cardinality),
    ("updateConstraint", actionField), ("deleteConstraint", actionField)]

def tableGroup : Shape :=
  .record "TableGroup" [("name", .text), ("tables", .fallback (.arr []) textList),
    ("comment", optionalText)]

def enumType : Shape :=
  .record "Enum" [("name", .text), ("values", .fallback (.arr []) textList),
    ("comment", optionalText)]

def extension : Shape := .record "Extension" [("name", .text)]

def schema : Shape :=
  .record "Schema" [("tables", .fallback emptyMap (.dict table)),
    ("relationships", .fallback emptyMap (.dict relationship)),
    ("tableGroups", .fallback emptyMap (.dict tableGroup)),
    ("enums", .fallback emptyMap (.dict enumType)),
    ("extensions", .fallback emptyMap (.dict extension))]

end SchemaShape

/-! ## From canonical values -/

namespace Canonical

def field (fs : List (String × Json)) (k : String) : Json := (lookup k fs).getD .null

def text : Json → String
  | .str s => s
  | _ => ""

def flag : Json → Bool
  | .bool b => b
  | _ => false

def optText : Json → Option String
  | .str s => some s
  | _ => none

def texts : Json → List String
  | .arr xs => xs.map text
  | _ => []

def action (v : Json) : Action := (Action.ofJsonName? (text v)).getD .noAction

def cardinality (v : Json) : Cardinality :=
  if text v == "ONE_TO_ONE" then .oneToOne else .oneToMany

def defaultValue : Json → Option DefaultValue
  | .bool b => some (.bool b)
  | .num (.nat n) => some (.int n)
  | .num (.negInt n) => some (.int n)
  | .num (.float x) => some (.float x)
  | .str s => some (.text s)
  | _ => none

def members : Json → List (String × Json)
  | .obj fs => fs
  | _ => []

def nameMap {α : Type} (f : Json → α) (v : Json) : NameMap α :=
  ⟨(members v).map fun (k, x) => (k, f x)⟩

def column (v : Json) : Column :=
  let fs := members v
  { name := text (field fs "name"), type := text (field fs "type"),
    default := defaultValue (field fs "default"), check := optText (field fs "check"),
    primary := flag (field fs "primary"), notNull := flag (field fs "notNull"),
    unique := flag (field fs "unique"), comment := optText (field fs "comment") }

def index (v : Json) : Index :=
  let fs := members v
  { name := text (field fs "name"), columns := texts (field fs "columns"),
    unique := flag (field fs "unique"), method := text (field fs "type") }

def constraint (v : Json) : Constraint :=
  let fs := members v
  let name := text (field fs "name")
  let cols := texts (field fs "columnNames")
  match text (field fs "type") with
  | "PRIMARY KEY" => .primaryKey name cols
  | "UNIQUE" => .unique name cols
  | "CHECK" => .check name (text (field fs "detail"))
  | _ => .foreignKey name cols (text (field fs "targetTableName"))
      (texts (field fs "targetColumnNames")) (action (field fs "updateConstraint"))
      (action (field fs "deleteConstraint"))

def table (v : Json) : Table :=
  let fs := members v
  { name := text (field fs "name"), columns := nameMap column (field fs "columns"),
    indexes := nameMap index (field fs "indexes"),
    constraints := nameMap constraint (field fs "constraints"),
    comment := optText (field fs "comment") }

def relationship (v : Json) : Relationship :=
  let fs := members v
  { name := text (field fs "name"), primaryTable := text (field fs "primaryTableName"),
    primaryColumn := text (field fs "primaryColumnName"),
    foreignTable := text (field fs "foreignTableName"),
    foreignColumn := text (field fs "foreignColumnName"),
    cardinality := cardinality (field fs "cardinality"),
    onUpdate := action (field fs "updateConstraint"),
    onDelete := action (field fs "deleteConstraint") }

def tableGroup (v : Json) : TableGroup :=
  let fs := members v
  { name := text (field fs "name"), tables := texts (field fs "tables"),
    comment := optText (field fs "comment") }

def enumType (v : Json) : EnumType :=
  let fs := members v
  { name := text (field fs "name"), values := texts (field fs "values"),
    comment := optText (field fs "comment") }

def extension (v : Json) : Extension := { name := text (field (members v) "name") }

def schema (v : Json) : Schema :=
  let fs := members v
  { tables := nameMap table (field fs "tables"),
    relationships := nameMap relationship (field fs "relationships"),
    tableGroups := nameMap tableGroup (field fs "tableGroups"),
    enums := nameMap enumType (field fs "enums"),
    extensions := nameMap extension (field fs "extensions") }

end Canonical

/-! ## Reading -/

/-- Read a schema from JSON text. -/
def Schema.readText (text : String) : Except ReadError Schema :=
  (SchemaShape.schema.readText text).map Canonical.schema

/-- Read a schema from a JSON value. -/
def Schema.ofJson? (v : Json) : Except DecodeFault Schema :=
  (SchemaShape.schema.read v).map Canonical.schema

def Table.ofJson? (v : Json) : Except DecodeFault Table :=
  (SchemaShape.table.read v).map Canonical.table

def Column.ofJson? (v : Json) : Except DecodeFault Column :=
  (SchemaShape.column.read v).map Canonical.column

def Index.ofJson? (v : Json) : Except DecodeFault Index :=
  (SchemaShape.index.read v).map Canonical.index

def Constraint.ofJson? (v : Json) : Except DecodeFault Constraint :=
  (SchemaShape.constraint.read v).map Canonical.constraint

end Schemata
