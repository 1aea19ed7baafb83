import Schemata.Tbls.Document
import Schemata.Parse.Problem
import Schemata.Text.Search
import Schemata.Text.Unicode.Case
import Schemata.Text.Unicode.Word
import Schemata.Decimal.Parse

/-!
# From a tbls document to a schema

Tables, relations and enums carry over nearly as they are. A column is
primary when a primary key constraint names it and unique when a one-column
unique constraint does. An index is unique when its definition mentions
`unique`, and its method is the word after `using`, both read from the
lowercased definition. Foreign key actions are read from `ON UPDATE ...` and
`ON DELETE ...` in the constraint or relation text. A relation is one-to-one
when its cardinality is `zero_or_one`. An enum loses the schema qualifying
its name.

Defaults are typed from their text: an integer, else a finite double, else
the words `true` and `false` in any case, else the text itself.
-/

namespace Schemata

namespace Tbls

open Unicode

/-- The default a default expression denotes. -/
def defaultValue (raw : String) : DefaultValue :=
  let trimmed := trim raw
  let named : DefaultValue := match lowercase raw with
    | "true" => .bool true
    | "false" => .bool false
    | _ => .text raw
  match parseInt64? trimmed with
  | some n => .int n
  | none =>
    match parseFloat? trimmed with
    | some x => if x.isFinite then .float x else named
    | none => named

/-- The word after `using` and blanks when the text at hand starts so. -/
def usingAt : List Char → Option String
  | 'u' :: 's' :: 'i' :: 'n' :: 'g' :: rest =>
    let blanks := rest.takeWhile isWhiteSpace
    let word := (rest.dropWhile isWhiteSpace).takeWhile isWordChar
    if blanks.isEmpty || word.isEmpty then none else some (String.ofList word)
  | _ => none

/-- The word after the first `using` that is followed by blanks and a word. -/
def usingMethod? : List Char → Option String
  | [] => none
  | cs@(_ :: rest) => (usingAt cs).orElse fun _ => usingMethod? rest

/-- The actions a foreign key text may name, in the order they are tried. -/
def actionPhrases : List String := ["SET NULL", "SET DEFAULT", "RESTRICT", "CASCADE", "NO ACTION"]

/-- The action phrase right after `label` and a space, at the start of the
text at hand. -/
def actionAt (label : List Char) (cs : List Char) : Option String :=
  if label.isPrefixOf cs then
    match cs.drop label.length with
    | ' ' :: rest => actionPhrases.find? fun p => p.toList.isPrefixOf rest
    | _ => none
  else none

/-- The first action phrase named after `label` anywhere in the text. -/
def actionPhrase? (label : List Char) : List Char → Option String
  | [] => none
  | cs@(_ :: rest) => (actionAt label cs).orElse fun _ => actionPhrase? label rest

/-- The action after `label` (`ON UPDATE`, `ON DELETE`) in a foreign key
text; no action when none is named. -/
def action (label definition : String) : Action :=
  ((actionPhrase? label.toList definition.toList).bind Action.ofSql?).getD .noAction

/-- The constraint an entry describes, if it is complete: keys need columns,
and a foreign key a referenced table and columns. -/
def convertConstraint (c : ConstraintEntry) : Option Constraint :=
  match c.kind with
  | "PRIMARY KEY" => if c.columns.isEmpty then none else some (.primaryKey c.name c.columns)
  | "UNIQUE" => if c.columns.isEmpty then none else some (.unique c.name c.columns)
  | "CHECK" => some (.check c.name c.definition)
  | "FOREIGN KEY" =>
    if c.columns.isEmpty || c.referencedColumns.isEmpty then none
    else
      match c.referencedTable with
      | some target =>
        if target.isEmpty then none
        else some (.foreignKey c.name c.columns target c.referencedColumns
          (action "ON UPDATE" c.definition) (action "ON DELETE" c.definition))
      | none => none
  | _ => none

def convertColumn (primary unique : List String) (c : ColumnEntry) : Column :=
  { name := c.name, type := c.type, notNull := !c.nullable, primary := primary.contains c.name,
    unique := unique.contains c.name, default := c.default.map defaultValue, comment := c.comment }

def convertIndex (i : IndexEntry) : Index :=
  let d := lowercase i.definition
  { name := i.name, columns := i.columns, unique := TextSearch.contains d "unique",
    method := (usingMethod? d.toList).getD "" }

def convertTable (e : TableEntry) : Table :=
  let primary := (e.constraints.filter (·.kind == "PRIMARY KEY")).flatMap (·.columns)
  let unique := (e.constraints.filter fun c => c.kind == "UNIQUE" && c.columns.length == 1).flatMap
    (·.columns)
  let t : Table := { name := e.name, comment := e.comment }
  let t := e.columns.foldl (fun t c => t.addColumn (convertColumn primary unique c)) t
  let t := e.indexes.foldl (fun t i => t.addIndex (convertIndex i)) t
  e.constraints.foldl (fun t c => match convertConstraint c with
    | some k => t.addConstraint k
    | none => t) t

/-- The relationship of a relation, between the first columns of each side. -/
def convertRelation (r : RelationEntry) : Option Relationship :=
  match r.parentColumns.head?, r.columns.head? with
  | some parentColumn, some column =>
    some { Relationship.new r.parentTable parentColumn r.table column with
      cardinality := if r.cardinality == some "zero_or_one" then .oneToOne else .oneToMany
      onUpdate := action "ON UPDATE" r.definition
      onDelete := action "ON DELETE" r.definition }
  | _, _ => none

/-- An enum name without its schema: what follows the last dot. -/
def unqualified (name : String) : String := ((name.splitOn ".").getLast?).getD name

/-- The schema a document describes. -/
def Document.toSchema (d : Document) : Schema :=
  let s := d.tables.foldl (fun s t => s.addTable (convertTable t)) ({} : Schema)
  let s := d.relations.foldl (fun s r => match convertRelation r with
    | some rel => s.addRelationship rel
    | none => s) s
  d.enums.foldl (fun s e =>
    let name := unqualified e.name
    { s with enums := s.enums.insert name { name, values := e.values } }) s

/-- Read a tbls document. A document of the wrong form gives an empty schema
and one problem. -/
def parseTbls (text : String) : Reading :=
  match Document.readText text with
  | .error e => { problems := [.invalidInput ("Invalid schema format: " ++ e.message)] }
  | .ok d => { value := d.toSchema }

end Tbls

end Schemata
