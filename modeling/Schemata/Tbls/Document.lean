import Schemata.Schema.Json

/-!
# tbls documents

tbls describes a live database as a JSON document: tables with their
columns, indexes and constraints, the relations between tables, and enum
types. The document is read through a shape, so a document of the wrong form
is refused with the first fault met, at its line and column; the shape's
record names are those the faults mention.

Only the tables are required of the document and only names, types,
nullability and the column lists of relations of its parts; every other
collection may be missing and reads as empty, every other text as empty or
absent. Unknown members are ignored.
-/

namespace Schemata

namespace Tbls

open Json

/-- A column as tbls reports it; `default` is the default expression text. -/
structure ColumnEntry where
  name : String
  type : String
  nullable : Bool
  default : Option String
  comment : Option String
deriving Repr, Inhabited

/-- An index and its `CREATE INDEX` text. -/
structure IndexEntry where
  name : String
  definition : String
  columns : List String
deriving Repr, Inhabited

/-- A constraint; `kind` is `PRIMARY KEY`, `UNIQUE`, `CHECK`, `FOREIGN KEY`
or another word, and `definition` its SQL text. -/
structure ConstraintEntry where
  name : String
  kind : String
  definition : String
  columns : List String
  referencedTable : Option String
  referencedColumns : List String
deriving Repr, Inhabited

structure TableEntry where
  name : String
  columns : List ColumnEntry
  indexes : List IndexEntry
  constraints : List ConstraintEntry
  comment : Option String
deriving Repr, Inhabited

/-- A relation from the columns of `table` to the parent columns of
`parentTable`, with the SQL text of its foreign key. -/
structure RelationEntry where
  table : String
  columns : List String
  parentTable : String
  parentColumns : List String
  cardinality : Option String
  definition : String
deriving Repr, Inhabited

/-- An enum type, its name possibly qualified by a schema. -/
structure EnumEntry where
  name : String
  values : List String
deriving Repr, Inhabited

structure Document where
  tables : List TableEntry
  relations : List RelationEntry
  enums : List EnumEntry
deriving Repr, Inhabited

namespace DocumentShape

def emptyList : Json := .arr []

def texts : Shape := .seq .text

def someTexts : Shape := .fallback emptyList texts

def optionalText : Shape := .fallback .null (.opt .text)

def definition : Shape := .fallback (.str "") .text

def column : Shape :=
  .record "TblsColumn" [("name", .text), ("type", .text), ("nullable", .flag),
    ("default", optionalText), ("comment", optionalText)]

def index : Shape :=
  .record "TblsIndex" [("name", .text), ("def", .text), ("columns", someTexts)]

def constraint : Shape :=
  .record "TblsConstraint" [("name", .text), ("type", .text), ("def", definition),
    ("columns", someTexts), ("referenced_table", optionalText), ("referenced_columns", someTexts)]

def table : Shape :=
  .record "TblsTable" [("name", .text), ("columns", .seq column),
    ("indexes", .fallback emptyList (.seq index)),
    ("constraints", .fallback emptyList (.seq constraint)), ("comment", optionalText)]

def relation : Shape :=
  .record "TblsRelation" [("table", .text), ("columns", texts), ("parent_table", .text),
    ("parent_columns", texts), ("cardinality", optionalText), ("def", definition)]

def enumEntry : Shape := .record "TblsEnum" [("name", .text), ("values", texts)]

def document : Shape :=
  .record "TblsSchema" [("tables", .seq table),
    ("relations", .fallback emptyList (.seq relation)),
    ("enums", .fallback emptyList (.seq enumEntry))]

end DocumentShape

namespace Canonical

open Schemata.Canonical

def items : Json → List Json
  | .arr xs => xs
  | _ => []

def column (v : Json) : ColumnEntry :=
  let fs := members v
  { name := text (field fs "name"), type := text (field fs "type"),
    nullable := flag (field fs "nullable"),
    default := Schemata.Canonical.optText (field fs "default"),
    comment := Schemata.Canonical.optText (field fs "comment") }

def index (v : Json) : IndexEntry :=
  let fs := members v
  { name := text (field fs "name"), definition := text (field fs "def"),
    columns := texts (field fs "columns") }

def constraint (v : Json) : ConstraintEntry :=
  let fs := members v
  { name := text (field fs "name"), kind := text (field fs "type"),
    definition := text (field fs "def"), columns := texts (field fs "columns"),
    referencedTable := Schemata.Canonical.optText (field fs "referenced_table"),
    referencedColumns := texts (field fs "referenced_columns") }

def table (v : Json) : TableEntry :=
  let fs := members v
  { name := text (field fs "name"), columns := (items (field fs "columns")).map column,
    indexes := (items (field fs "indexes")).map index,
    constraints := (items (field fs "constraints")).map constraint,
    comment := Schemata.Canonical.optText (field fs "comment") }

def relation (v : Json) : RelationEntry :=
  let fs := members v
  { table := text (field fs "table"), columns := texts (field fs "columns"),
    parentTable := text (field fs "parent_table"),
    parentColumns := texts (field fs "parent_columns"),
    cardinality := Schemata.Canonical.optText (field fs "cardinality"),
    definition := text (field fs "def") }

def enumEntry (v : Json) : EnumEntry :=
  let fs := members v
  { name := text (field fs "name"), values := texts (field fs "values") }

def document (v : Json) : Document :=
  let fs := members v
  { tables := (items (field fs "tables")).map table,
    relations := (items (field fs "relations")).map relation,
    enums := (items (field fs "enums")).map enumEntry }

end Canonical

/-- Read a tbls document from JSON text. -/
def Document.readText (text : String) : Except ReadError Document :=
  (DocumentShape.document.readText text).map Canonical.document

end Tbls

end Schemata
