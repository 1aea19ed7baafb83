import Schemata.Schema.Json
import Schemata.Schema.Change
import Schemata.Sql.Parser
import Schemata.Decimal.Layout

/-!
# Writing PostgreSQL DDL

Identifiers are always double-quoted and string literals single-quoted, each
with its quote doubled inside. A whole schema is written as its extensions,
enum types, tables (each followed by its comments), indexes, primary keys
implied only by column flags, and constraints, foreign keys last so that every
referenced table exists before it is referenced. Blocks are separated by
blank lines.

A patch is written operation by operation. An operation is recognised by the
first of eleven path patterns its path matches, together with its kind; its
value is decoded as the object the pattern names. Operations that cannot be
written, or whose value does not decode, are reported instead.
-/

namespace Schemata

namespace Ddl

open Unicode

/-- Characters with each `q` written twice. -/
def doubled (q : Char) (cs : List Char) : List Char := cs.flatMap fun c => if c = q then [q, q] else [c]

/-- A text between quotes `q`, each `q` inside written twice. -/
def quoteWith (q : Char) (s : String) : String := String.ofList (q :: doubled q s.toList ++ [q])

/-- A double-quoted identifier. -/
def quote (identifier : String) : String := quoteWith '"' identifier

/-- A single-quoted string literal. -/
def stringLiteral (value : String) : String := quoteWith '\'' value

def commentLiteral : Option String → String
  | some c => stringLiteral c
  | none => "NULL"

/-- The SQL of a column default; floats keep a fraction or an exponent. -/
def defaultLiteral : DefaultValue → String
  | .bool true => "TRUE"
  | .bool false => "FALSE"
  | .int n => toString n
  | .float x => FloatStyle.debug.render x
  | .text t => if Sql.Parser.isSqlExpression t then t else stringLiteral t

def columnList (columns : List String) : String := ", ".intercalate (columns.map quote)

/-- Whether a check detail already reads `CHECK (`, ignoring case and blanks. -/
def startsWithCheck (detail : String) : Bool :=
  let cs := dropBlanks detail.toList
  let letters := "CHECK".toList
  let opens := letters.length ≤ cs.length &&
    (letters.zip (cs.take letters.length)).all fun (l, c) =>
      c == l || c == l.toLower || (l == 'K' && c == '\u212A')
  opens && (dropBlanks (cs.drop letters.length)).head? == some '('

def constraintBody : Constraint → String
  | .primaryKey _ cs => "PRIMARY KEY (" ++ columnList cs ++ ")"
  | .unique _ cs => "UNIQUE (" ++ columnList cs ++ ")"
  | .check _ detail => if startsWithCheck detail then trimStart detail else "CHECK (" ++ detail ++ ")"
  | .foreignKey _ cs target targetColumns onUpdate onDelete =>
    "FOREIGN KEY (" ++ columnList cs ++ ") REFERENCES " ++ quote target ++ " (" ++
      columnList targetColumns ++ ") ON UPDATE " ++ onUpdate.sqlText ++ " ON DELETE " ++
      onDelete.sqlText

def addConstraintStatement (table : String) (c : Constraint) : String :=
  "ALTER TABLE " ++ quote table ++ " ADD CONSTRAINT " ++ quote c.name ++ " " ++ constraintBody c ++ ";"

def createIndexStatement (table : String) (i : Index) : String :=
  "CREATE" ++ (if i.unique then " UNIQUE" else "") ++ " INDEX " ++ quote i.name ++ " ON " ++
    quote table ++ (if i.method.isEmpty then "" else " USING " ++ i.method) ++ " (" ++
    columnList i.columns ++ ");"

def columnDefinition (c : Column) (inlinePrimary : Bool) : String :=
  quote c.name ++ " " ++ c.type ++
    (if inlinePrimary then " PRIMARY KEY" else if c.notNull then " NOT NULL" else "") ++
    (match c.default with
     | some d => " DEFAULT " ++ defaultLiteral d
     | none => "")

def createTableBody (name : String) (elements : List String) : String :=
  if elements.isEmpty then "CREATE TABLE " ++ quote name ++ " ();"
  else "CREATE TABLE " ++ quote name ++ " (\n  " ++ ",\n  ".intercalate elements ++ "\n);"

/-- The comment statements of a table and its columns, if any. -/
def commentStatements (t : Table) : Option String :=
  let tableLine := t.comment.toList.map fun c =>
    "COMMENT ON TABLE " ++ quote t.name ++ " IS " ++ stringLiteral c ++ ";"
  let columnLines := t.columns.values.filterMap fun col => col.comment.map fun c =>
    "COMMENT ON COLUMN " ++ quote t.name ++ "." ++ quote col.name ++ " IS " ++ stringLiteral c ++ ";"
  let lines := tableLine ++ columnLines
  if lines.isEmpty then none else some ("\n".intercalate lines)

/-- The columns flagged primary on a table without a primary key constraint. -/
def flaggedPrimaryColumns (t : Table) : List String :=
  if t.primaryKey?.isSome then [] else (t.columns.values.filter (·.primary)).map (·.name)

/-- The column whose primary key is written inline, if any: the single column
of a primary key with its default name, or the only column flagged primary
of a table without a primary key constraint. -/
def inlinePrimaryKey (t : Table) : Option String :=
  match t.primaryKey? with
  | some (.primaryKey name [column]) => if name == "PRIMARY_" ++ column then some column else none
  | some _ => none
  | none =>
    match t.columns.values.filter (·.primary) with
    | [c] => some c.name
    | _ => none

/-- A column definition with its check, naming the check constraint when it
does not have the default name. `used` holds the checks already written. -/
def columnElement (t : Table) (inlinePk : Option String) (used : List String) (c : Column) :
    String × List String :=
  let definition := columnDefinition c (inlinePk == some c.name)
  match c.check with
  | none => (definition, used)
  | some detail =>
    let found := t.constraints.values.find? fun k =>
      match k with
      | .check name d => d == detail && !used.contains name
      | _ => false
    let (definition, used) := match found with
      | some k =>
        if k.name != "CHECK_" ++ c.name then
          (definition ++ " CONSTRAINT " ++ quote k.name, used ++ [k.name])
        else (definition, used ++ [k.name])
      | none => (definition, used)
    (definition ++ " CHECK (" ++ detail ++ ")", used)

/-- `CREATE TABLE` for an added table, its indexes and its comments. -/
def createTableStatement (t : Table) : String :=
  let inlinePk := inlinePrimaryKey t
  let (columns, used) := t.columns.values.foldl (fun (els, used) c =>
    let (e, used) := columnElement t inlinePk used c
    (els ++ [e], used)) (([] : List String), ([] : List String))
  let flagged := flaggedPrimaryColumns t
  let keyElement := if inlinePk.isNone && !flagged.isEmpty then
      ["PRIMARY KEY (" ++ columnList flagged ++ ")"] else []
  let constraintElements := t.constraints.values.filterMap fun k =>
    let inlined := match k with
      | .primaryKey .. => inlinePk.isSome
      | .check name _ => used.contains name
      | _ => false
    if inlined then none else some ("CONSTRAINT " ++ quote k.name ++ " " ++ constraintBody k)
  let body := createTableBody t.name (columns ++ keyElement ++ constraintElements)
  let indexes := t.indexes.values.map (createIndexStatement t.name)
  let statements := [body] ++ (if indexes.isEmpty then [] else ["\n".intercalate indexes]) ++
    (commentStatements t).toList
  "\n\n".intercalate statements

def addColumnStatement (table : String) (c : Column) : String :=
  "ALTER TABLE " ++ quote table ++ " ADD COLUMN " ++ columnDefinition c c.primary ++ ";" ++
    (match c.comment with
     | some comment =>
       "\n\nCOMMENT ON COLUMN " ++ quote table ++ "." ++ quote c.name ++ " IS " ++
         stringLiteral comment ++ ";"
     | none => "")

def createExtensionStatement (e : Extension) : String :=
  let plain := e.name.all fun c => ('a' ≤ c && c ≤ 'z') || ('0' ≤ c && c ≤ '9') || c == '_'
  "CREATE EXTENSION IF NOT EXISTS " ++ (if plain then e.name else quote e.name) ++ ";"

def createEnumStatement (e : EnumType) : String :=
  "CREATE TYPE " ++ quote e.name ++ " AS ENUM (" ++ ", ".intercalate (e.values.map stringLiteral) ++
    ");" ++
    (match e.comment with
     | some c => "\n\nCOMMENT ON TYPE " ++ quote e.name ++ " IS " ++ stringLiteral c ++ ";"
     | none => "")

/-- The DDL of a whole schema. -/
def schemaDdl (s : Schema) : String :=
  let tables := s.tables.values
  let tableBlocks := tables.map fun t =>
    let body := createTableBody t.name (t.columns.values.map (columnDefinition · false))
    match commentStatements t with
    | some comments => body ++ "\n\n" ++ comments
    | none => body
  let indexBlocks := tables.flatMap fun t => t.indexes.values.map (createIndexStatement t.name)
  let keyBlocks := tables.filterMap fun t =>
    let flagged := flaggedPrimaryColumns t
    if flagged.isEmpty then none
    else some ("ALTER TABLE " ++ quote t.name ++ " ADD PRIMARY KEY (" ++ columnList flagged ++ ");")
  let pairs := tables.flatMap fun t => t.constraints.values.map fun c => (t.name, c)
  let constraintBlocks := (pairs.filter (!·.2.isForeignKey) ++ pairs.filter (·.2.isForeignKey)).map
    fun (t, c) => addConstraintStatement t c
  "\n\n".intercalate (s.extensions.values.map createExtensionStatement ++
    s.enums.values.map createEnumStatement ++ tableBlocks ++ indexBlocks ++ keyBlocks ++
    constraintBlocks)

/-! ## Operations -/

/-- Why an operation cannot be written. -/
inductive DdlError where
  | unsupported (op path : String)
  | invalidValue (path message : String)
deriving Repr, DecidableEq, Inhabited

def DdlError.message : DdlError → String
  | .unsupported op path => "unsupported operation: " ++ op ++ " " ++ path
  | .invalidValue path message => "invalid value at " ++ path ++ ": " ++ message

/-- The kind of an operation as a word. -/
def opName : PatchOp → String
  | .add .. => "add"
  | .remove .. => "remove"
  | .replace .. => "replace"

def opValue? : PatchOp → Option Json
  | .add _ v | .replace _ v => some v
  | .remove _ => none

/-- Decode the operation's value (`null` when it has none). -/
def decode {α : Type} (op : PatchOp) (f : Json → Except Json.DecodeFault α) : Except DdlError α :=
  match f ((opValue? op).getD .null) with
  | .ok a => .ok a
  | .error e => .error (.invalidValue op.path e.message)

/-- Decode a nullable value: a missing value or `null` is `none`. -/
def decodeOrNull {α : Type} (op : PatchOp) (f : Json → Except Json.DecodeFault α) :
    Except DdlError (Option α) :=
  match opValue? op with
  | none | some .null => .ok none
  | some _ => (decode op f).map some

def readText (v : Json) : Except Json.DecodeFault String :=
  (Json.Shape.text.read v).map Canonical.text

def readFlag (v : Json) : Except Json.DecodeFault Bool :=
  (Json.Shape.flag.read v).map Canonical.flag

def readDefault (v : Json) : Except Json.DecodeFault DefaultValue :=
  (SchemaShape.defaultValue.read v).map fun c => (Canonical.defaultValue c).getD (.text "")

/-- The patterns an operation is recognised by, in order. -/
def operationPatterns : List PathPattern :=
  [.tableBase, .tableName, .tableComment, .columnBase, .columnName, .columnType, .columnDefault,
   .columnNotNull, .columnComment, .indexBase, .constraintBase]

/-- The DDL of one operation. -/
def operationDdl (op : PatchOp) : Except DdlError String := do
  let path := op.path
  let unsupported : DdlError := .unsupported (opName op) path
  let some (pattern, table, item) := operationPatterns.findSome? fun p =>
      (p.captures path).map fun (t, i) => (p, t, i.getD "")
    | throw unsupported
  match pattern, op with
  | .tableBase, .add .. => return createTableStatement (← decode op Table.ofJson?)
  | .tableBase, .remove _ => return "DROP TABLE " ++ quote table ++ ";"
  | .tableName, .replace .. =>
    return "ALTER TABLE " ++ quote table ++ " RENAME TO " ++ quote (← decode op readText) ++ ";"
  | .tableComment, _ =>
    return "COMMENT ON TABLE " ++ quote table ++ " IS " ++ commentLiteral (← decodeOrNull op readText) ++ ";"
  | .columnBase, .add .. => return addColumnStatement table (← decode op Column.ofJson?)
  | .columnBase, .remove _ =>
    return "ALTER TABLE " ++ quote table ++ " DROP COLUMN " ++ quote item ++ ";"
  | .columnName, .replace .. =>
    return "ALTER TABLE " ++ quote table ++ " RENAME COLUMN " ++ quote item ++ " TO " ++
      quote (← decode op readText) ++ ";"
  | .columnType, .replace .. =>
    return "ALTER TABLE " ++ quote table ++ " ALTER COLUMN " ++ quote item ++ " TYPE " ++
      (← decode op readText) ++ ";"
  | .columnNotNull, .add .. | .columnNotNull, .replace .. =>
    let notNull ← decode op readFlag
    return "ALTER TABLE " ++ quote table ++ " ALTER COLUMN " ++ quote item ++ " " ++
      (if notNull then "SET" else "DROP") ++ " NOT NULL;"
  | .columnDefault, _ =>
    match ← decodeOrNull op readDefault with
    | some d =>
      return "ALTER TABLE " ++ quote table ++ " ALTER COLUMN " ++ quote item ++ " SET DEFAULT " ++
        defaultLiteral d ++ ";"
    | none => return "ALTER TABLE " ++ quote table ++ " ALTER COLUMN " ++ quote item ++ " DROP DEFAULT;"
  | .columnComment, _ =>
    return "COMMENT ON COLUMN " ++ quote table ++ "." ++ quote item ++ " IS " ++
      commentLiteral (← decodeOrNull op readText) ++ ";"
  | .indexBase, .add .. => return createIndexStatement table (← decode op Index.ofJson?)
  | .indexBase, .remove _ => return "DROP INDEX " ++ quote item ++ ";"
  | .constraintBase, .add .. => return addConstraintStatement table (← decode op Constraint.ofJson?)
  | .constraintBase, .remove _ =>
    return "ALTER TABLE " ++ quote table ++ " DROP CONSTRAINT " ++ quote item ++ ";"
  | _, _ => throw unsupported

/-- The DDL of a patch: the statements of the operations that can be written,
separated by blank lines, and the errors of the others. -/
def patchDdl (ops : List PatchOp) : String × List DdlError :=
  let (statements, errors) := ops.foldl (fun (ss, es) op =>
    match operationDdl op with
    | .ok s => (if s.isEmpty then ss else ss ++ [s], es)
    | .error e => (ss, es ++ [e])) (([] : List String), ([] : List DdlError))
  ("\n\n".intercalate statements, errors)

end Ddl

end Schemata
