import Schemata.Schema.Change
import Schemata.Schema.Basic
import Schemata.Text.Unicode.Width
import Schemata.Text.Unicode.WhiteSpace
import Schemata.Decimal.Layout

/-!
# A plain-text summary of a schema

The summary counts the schema's objects, then lists every table with its
comment, one line per column and one per index, then the enums and the
extensions. A column line holds the column's name, type, flags (`PK`, `FK`,
`NOT NULL`, `UNIQUE`) and default, each cell padded to the widest cell of
its table by display width, so that names in wide scripts line up with ASCII
ones. Long defaults are cut to a maximum width and marked with `…`.

Given a patch, every table and column line starts with its change marker:
`+` added, `-` removed, `~` modified, or a blank.
-/

namespace Schemata

/-- Layout parameters of a summary. -/
structure SummaryStyle where
  indent : Nat := 2
  gap : Nat := 2
  maxDefaultWidth : Nat := 32
deriving Repr, Inhabited

namespace SummaryStyle

open Unicode

def spaces (n : Nat) : String := String.ofList (List.replicate n ' ')

/-- Pad a text with blanks to a display width. -/
def pad (text : String) (width : Nat) : String := text ++ spaces (width - textWidth text)

/-- The longest prefix whose width plus one fits in `width`. -/
def fitPrefix (width : Nat) : List Char → Nat → List Char
  | [], _ => []
  | c :: rest, used =>
    let w := (charWidth? c).getD 0
    if used + w + 1 > width then [] else c :: fitPrefix width rest (used + w)

/-- Cut a text to at most `width` display columns, marking a cut with `…`. -/
def truncate (text : String) (width : Nat) : String :=
  if textWidth text ≤ width then text
  else String.ofList (fitPrefix width text.toList 0) ++ "…"

/-- The text of a default as the summary shows it. -/
def defaultText : DefaultValue → String
  | .bool b => toString b
  | .int n => toString n
  | .float x => FloatStyle.display.render x
  | .text s => s

def statusMarker : ChangeStatus → String
  | .added => "+"
  | .removed => "-"
  | .modified => "~"
  | .unchanged => " "

/-- The cells of a column line. -/
def columnCells (style : SummaryStyle) (foreign : List String) (c : Column) : List String :=
  let flags := (if c.primary then ["PK"] else []) ++ (if foreign.contains c.name then ["FK"] else []) ++
    (if c.notNull && !c.primary then ["NOT NULL"] else []) ++
    (if c.unique && !c.primary then ["UNIQUE"] else [])
  let default := match c.default with
    | some d => "= " ++ truncate (defaultText d) style.maxDefaultWidth
    | none => ""
  [c.name, c.type, " ".intercalate flags, default]

/-- The widest cell of each of the four columns. -/
def cellWidths (rows : List (List String)) : List Nat :=
  (List.range 4).map fun i => rows.foldl (fun m r => max m (textWidth (r.getD i ""))) 0

/-- The columns of a table that its foreign keys name. -/
def foreignColumns (t : Table) : List String :=
  (t.constraints.values.filter (·.isForeignKey)).flatMap (·.columnNames)

/-- The cells of a table's column lines, one row per column. -/
def columnRows (style : SummaryStyle) (t : Table) : List (List String) :=
  t.columns.values.map (columnCells style (foreignColumns t))

/-- The change marker that starts a line: nothing without a patch, else the status of the
line's object and a blank. -/
def changeMarker (ops : Option (List PatchOp)) (table : String) (p : PathPattern)
    (item : Option String) : String :=
  match ops with
  | some ops => statusMarker (changeStatus table ops p item) ++ " "
  | none => ""

/-- A column line: the indent, the marker and the cells, each padded to its column's width and
set apart by the gap, without trailing blanks. -/
def columnLine (style : SummaryStyle) (marker : String) (widths : List Nat) (row : List String) :
    String :=
  let cells := (row.zip widths).map fun (cell, w) => pad cell w
  trimEnd (spaces style.indent ++ marker ++ (spaces style.gap).intercalate cells)

/-- The first line of a table, without its line break: its marker, its name and its comment. -/
def tableHead (ops : Option (List PatchOp)) (t : Table) : String :=
  changeMarker ops t.name .tableBase none ++ t.name ++
    (match t.comment with | some c => "  -- " ++ c | none => "")

def renderTable (style : SummaryStyle) (ops : Option (List PatchOp)) (t : Table) : String :=
  let head := tableHead ops t ++ "\n"
  let rows := columnRows style t
  let widths := cellWidths rows
  let lines := rows.map fun row =>
    columnLine style (changeMarker ops t.name .columnBase (some (row.getD 0 ""))) widths row ++ "\n"
  let indent := spaces style.indent
  let indexLines := t.indexes.values.map fun i =>
    indent ++ (if i.unique then "unique " else "") ++ "index " ++ i.name ++ " (" ++
      ", ".intercalate i.columns ++ ")\n"
  head ++ String.join lines ++ String.join indexLines

/-- The first line of a summary: how many objects of each kind the schema holds. -/
def summaryCounts (s : Schema) : String :=
  toString s.tables.size ++ " tables, " ++ toString s.relationships.size ++
    " relationships, " ++ toString s.enums.size ++ " enums, " ++ toString s.extensions.size ++
    " extensions\n"

/-- The summary of a schema, with change markers when a patch is given. -/
def render (style : SummaryStyle) (s : Schema) (ops : Option (List PatchOp)) : String :=
  let counts := summaryCounts s
  let tables := String.join (s.tables.values.map fun t => "\n" ++ renderTable style ops t)
  let enums := if s.enums.isEmpty then "" else
    "\n" ++ String.join (s.enums.values.map fun e =>
      "enum " ++ e.name ++ " (" ++ ", ".intercalate e.values ++ ")\n")
  let extensions := if s.extensions.isEmpty then "" else
    "\nextensions: " ++ ", ".intercalate s.extensions.keys ++ "\n"
  counts ++ tables ++ enums ++ extensions

end SummaryStyle

end Schemata
