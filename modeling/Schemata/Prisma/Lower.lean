import Schemata.Prisma.Parser
import Schemata.Parse.Problem
import Schemata.Schema.Types
import Schemata.Text.Unicode.Case
import Schemata.Decimal.Parse

/-!
# From a Prisma document to a schema

Models become tables and enums become enum types, both under their `@@map`
names when given. A field whose type names a model is a relation field and
gives no column; the side that carries `@relation(fields: ..., references:
...)` gives a foreign key and a relationship. Every other field is a column:
`@db.*` names its type, else the scalar type, enum or written type does, with
`[]` for a list; it is not null unless optional.

When two blocks share a name, lookups by name see the later one, while the
tables are still added one per model, in order.

Constraint names follow the Prisma conventions: `PRIMARY_{columns}`,
`UNIQUE_{columns}`, `{table}_{columns}_idx` and `{table}_{columns}_fkey`,
each overridden by a `map:` (or `name:`) argument.
-/

namespace Schemata

namespace Prisma

/-- The last model of a name: a later block shadows an earlier one. -/
def Document.model? (d : Document) (name : String) : Option Model :=
  d.models.reverse.find? (·.name == name)

/-- The last enum of a name. -/
def Document.enum? (d : Document) (name : String) : Option EnumBlock :=
  d.enums.reverse.find? (·.name == name)

/-- The name an enum is stored under. -/
def EnumBlock.storedName (e : EnumBlock) : String := e.mappedName.getD e.name

/-- The column name of a field: its `@map` string, else its name. -/
def Field.columnName (f : Field) : String :=
  ((f.attribute? "map").bind (·.strArg? none)).getD f.name

/-- The column names of the named fields of a model; `none` when the list is
empty or names a field the model does not have. -/
def columnNames (m : Model) (fields : List String) : Option (List String) :=
  if fields.isEmpty then none
  else fields.mapM fun n => (m.fields.find? (·.name == n)).map Field.columnName

/-- The columns of a block attribute: its `fields:` list, else its first
unlabelled list. -/
def attributeColumns (m : Model) (a : Attribute) : List String :=
  ((columnNames m (a.identList (some "fields"))).orElse
    fun _ => columnNames m (a.identList none)).getD []

/-- The name of a block constraint: its `map:` or `name:` string, else the
prefix and the columns joined by `_`. -/
def constraintName (a : Attribute) (pre : String) (columns : List String) : String :=
  ((a.strArg? (some "map")).orElse fun _ => a.strArg? (some "name")).getD
    (pre ++ "_" ++ "_".intercalate columns)

/-- The literal default an expression denotes, if any. A number is an
integer when it fits 64 bits, else a double; `dbgenerated` takes its first
argument's string; any other call is kept as `name()`. -/
def defaultValue? : Expr → Option DefaultValue
  | .str s => some (.text s)
  | .num n =>
    match parseInt64? n with
    | some i => some (.int i)
    | none => (parseFloat? n).map .float
  | .ident "true" => some (.bool true)
  | .ident "false" => some (.bool false)
  | .ident s => some (.text s)
  | .call "dbgenerated" args =>
    match args.head? with
    | some a =>
      match a.value with
      | .str s => some (.text s)
      | _ => none
    | none => none
  | .call name _ => some (.text (name ++ "()"))
  | .array _ => none

/-- The referential action a `onUpdate:`/`onDelete:` argument names. -/
def action : Option Expr → Action
  | some (.ident "Cascade") => .cascade
  | some (.ident "Restrict") => .restrict
  | some (.ident "SetNull") => .setNull
  | some (.ident "SetDefault") => .setDefault
  | _ => .noAction

/-- The native type of a field, from its first `@db.*` attribute. -/
def nativeType? (f : Field) : Option String :=
  f.attributes.findSome? fun a =>
    if a.name.startsWith "db." then
      let args := a.args.filterMap fun arg =>
        match arg.value with
        | .num s | .str s | .ident s => some s
        | _ => none
      some (TypeName.normalizePrismaNative (String.ofList (a.name.toList.drop 3)) args)
    else none

/-- The column of a scalar field, and the problem of an unsupported default. -/
def column (d : Document) (f : Field) : Column × List Problem :=
  let base := match nativeType? f with
    | some t => t
    | none =>
      match TypeName.normalizePrisma? f.type with
      | some t => t
      | none => ((d.enum? f.type).map EnumBlock.storedName).getD f.type
  let type := if f.arity == .list then base ++ "[]" else base
  let c : Column :=
    { name := f.columnName, type, notNull := f.arity != .optional, comment := f.doc }
  let c := if (f.attribute? "id").isSome then c.markPrimary else c
  let c := if (f.attribute? "unique").isSome then { c with unique := true } else c
  match (f.attribute? "default").bind (·.arg? none) with
  | none => (c, [])
  | some v =>
    match defaultValue? v with
    | some dv => ({ c with default := some dv }, [])
    | none =>
      (c, [.unsupported ("unsupported default on field \"" ++ f.name ++ "\": " ++ v.describe) none])

/-- Apply one block attribute (`@@id`, `@@unique`, `@@index`) to a table. -/
def blockAttribute (m : Model) (t : Table) (a : Attribute) : Table :=
  match a.name with
  | "id" =>
    let columns := attributeColumns m a
    let t := columns.foldl (fun t n => t.modifyColumn n fun c =>
      { c with primary := true, notNull := true }) t
    t.addConstraint (.primaryKey (constraintName a "PRIMARY" columns) columns)
  | "unique" =>
    let columns := attributeColumns m a
    let t := match columns with
      | [single] => t.modifyColumn single fun c => { c with unique := true }
      | _ => t
    t.addConstraint (.unique (constraintName a "UNIQUE" columns) columns)
  | "index" =>
    let columns := attributeColumns m a
    let name := ((a.strArg? (some "map")).orElse fun _ => a.strArg? (some "name")).getD
      (t.name ++ "_" ++ "_".intercalate columns ++ "_idx")
    let method := match a.arg? (some "type") with
      | some (.ident m) => Unicode.lowercase m
      | _ => ""
    t.addIndex { name, columns, method }
  | _ => t

/-- The table of a model, and the problems of its columns. -/
def table (d : Document) (m : Model) : Table × List Problem :=
  let scalar := m.fields.filter fun f => (d.model? f.type).isNone
  let (t, problems) := scalar.foldl (fun (t, ps) f =>
    let (c, more) := column d f
    let t := t.addColumn c
    let t := if (f.attribute? "id").isSome then
      t.addConstraint (.primaryKey ("PRIMARY_" ++ c.name) [c.name]) else t
    let t := if (f.attribute? "unique").isSome then
      t.addConstraint (.unique ("UNIQUE_" ++ c.name) [c.name]) else t
    (t, ps ++ more)) (({ name := m.tableName, comment := m.doc } : Table), [])
  (m.attributes.foldl (blockAttribute m) t, problems)

/-- One-to-one when the back-relation field on the target is singular, or
when there is none and the single foreign key column is unique. -/
def cardinality (s : Schema) (target m : Model) (columns : List String) : Cardinality :=
  let uniqueKey : Bool := match columns with
    | [single] => ((s.tables.get? m.tableName).bind (·.columns.get? single)).any (·.unique)
    | _ => false
  match target.fields.find? (·.type == m.name) with
  | some f => if f.arity != .list then .oneToOne else .oneToMany
  | none => if uniqueKey then .oneToOne else .oneToMany

/-- Add the foreign key of a relation field to the schema. A relation
without `fields:` is the back side and adds nothing. -/
def foreignKey (d : Document) (m : Model) (f : Field) (r : Attribute) (s : Schema) :
    Schema × List Problem :=
  let fields := r.identList (some "fields")
  if fields.isEmpty then (s, []) else
  match d.model? f.type with
  | none => (s, [])
  | some target =>
    let tableName := m.tableName
    let targetTable := target.tableName
    match columnNames m fields, columnNames target (r.identList (some "references")) with
    | some columns@(column :: _), some targetColumns@(targetColumn :: _) =>
      let onUpdate := action (r.arg? (some "onUpdate"))
      let onDelete := action (r.arg? (some "onDelete"))
      let name := (r.strArg? (some "map")).getD
        (tableName ++ "_" ++ "_".intercalate columns ++ "_fkey")
      let rel : Relationship :=
        { Relationship.new targetTable targetColumn tableName column with
          cardinality := cardinality s target m columns, onUpdate, onDelete }
      let fk : Constraint := .foreignKey name columns targetTable targetColumns onUpdate onDelete
      let s := if s.tables.contains tableName then
        s.modifyTable tableName (·.addConstraint fk) else s
      (s.addRelationship rel, [])
    | _, _ =>
      (s, [.danglingReference
        ("relation \"" ++ f.name ++ "\" on \"" ++ tableName ++ "\" names unknown fields")])

/-- The schema a document describes, and the problems met. -/
def lower (d : Document) : Schema × List Problem :=
  let s : Schema := d.enums.foldl (fun s e =>
    let name := e.storedName
    { s with enums := s.enums.insert name { name, values := e.values, comment := e.doc } }) {}
  let (s, ps) := d.models.foldl (fun (s, ps) m =>
    let (t, more) := table d m
    (s.addTable t, ps ++ more)) (s, [])
  d.models.foldl (fun acc m =>
    m.fields.foldl (fun (s, ps) f =>
      match f.attribute? "relation" with
      | some r =>
        let (s, more) := foreignKey d m f r s
        (s, ps ++ more)
      | none => (s, ps)) acc) (s, ps)

/-- Read a Prisma schema. A lexing error gives an empty schema; a block that
fails to parse is reported and skipped. -/
def parsePrisma (text : String) : Reading :=
  let warn (e : ParseError) : Problem := .unexpectedToken e.message (some e.offset)
  match parseDocument text with
  | .error e => { problems := [warn e] }
  | .ok (d, errors) =>
    let (s, ps) := lower d
    { value := s, problems := errors.map warn ++ ps }

end Prisma

end Schemata
