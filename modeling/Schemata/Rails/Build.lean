import Schemata.Rails.Parser
import Schemata.Rails.Inflect
import Schemata.Parse.Problem
import Schemata.Schema.Types
import Schemata.Schema.Extensions

/-!
# From `schema.rb` calls to a schema

The top-level calls `create_table`, `add_index`, `add_foreign_key`,
`add_check_constraint`, `create_enum` and `enable_extension` build the
schema; other calls are ignored. Inside a `create_table` block, calls on the
block variable add columns (`t.string "email"`), indexes, check
constraints, references and timestamps.

A table gets a `bigserial` primary key `id` unless `id: false` is given;
`id:` names another type and `primary_key:` another column, or, as an array,
a composite key. Unique indexes add unique constraints (and mark a single
column unique). Foreign keys are named `fk_{table}_{column}` unless named,
and each adds a relationship. Problems of single calls are warnings at the
call's offset; calls on missing tables are reported as dangling.
-/

namespace Schemata

namespace Rails

/-- The schema under construction and the problems met. -/
structure Builder where
  schema : Schema := {}
  problems : List Problem := []
deriving Inhabited

/-- A foreign key to link. -/
structure ForeignKeyLink where
  table : String
  column : String
  targetTable : String
  targetColumn : String
  name : Option String
  onUpdate : Action
  onDelete : Action

/-- The literal default of a column option. -/
def defaultValue? : Value → Option DefaultValue
  | .bool b => some (.bool b)
  | .int n => some (.int n)
  | .float x => some (.float x)
  | .str s | .lambda (some s) => some (.text s)
  | _ => none

/-- A column declared by `t.<method> "name", ...`. -/
def columnFromCall (method name : String) (c : Call) : Column :=
  let typ := TypeName.normalizeSchemaRb method
  let typ := match c.option? "limit" with
    | some (.int limit) => if typ == "varchar" || typ == "char" then typ ++ "(" ++ toString limit ++ ")" else typ
    | _ => typ
  let typ := match c.option? "precision" with
    | some (.int p) =>
      match c.option? "scale" with
      | some (.int s) => typ ++ "(" ++ toString p ++ "," ++ toString s ++ ")"
      | _ => typ ++ "(" ++ toString p ++ ")"
    | _ => typ
  let typ := if c.optionIs "array" true then typ ++ "[]" else typ
  { name, type := typ, notNull := c.optionIs "null" false, unique := c.optionIs "unique" true,
    default := (c.option? "default").bind defaultValue?, comment := c.optionText? "comment" }

/-- An index from `t.index` (columns in argument 0) or `add_index` (argument 1). -/
def indexFromCall (table : String) (c : Call) (columnArg : Nat) : Index :=
  let columns := ((c.args[columnArg]?).map Value.texts).getD []
  { name := (c.optionText? "name").getD ("index_" ++ table ++ "_on_" ++ "_and_".intercalate columns)
    columns
    unique := c.optionIs "unique" true
    method := (c.optionText? "using").getD "" }

/-- Store an index; a unique one also adds a unique constraint. -/
def addIndex (t : Table) (i : Index) : Table :=
  let t := if i.unique && !i.columns.isEmpty then
      let t := t.addConstraint (.unique ("UNIQUE_" ++ "_".intercalate i.columns) i.columns)
      match i.columns with
      | [col] => t.modifyColumn col fun c => { c with unique := true }
      | _ => t
    else t
  t.addIndex i

/-- The first free check constraint name of a table: `CHECK_{table}`, then
`CHECK_{table}_2`, `CHECK_{table}_3`, ... The search stops after as many
numbered names as the table has constraints, plus one: by
`NameMap.exists_free_numbered` one of those is free whenever the base name is
taken, so the fallback to the base name is never reached and the search gives
what an unbounded one would. -/
def checkName (t : Table) : String :=
  let base := "CHECK_" ++ t.name
  if !t.constraints.contains base then base
  else
    let candidates := (List.range (t.constraints.size + 1)).map fun n => base ++ "_" ++ toString (n + 2)
    (candidates.find? (!t.constraints.contains ·)).getD base

/-- `t.references :user` adds `user_id`, an index and possibly a foreign key
to `users`; returns the column and target table of that foreign key. -/
def references (t : Table) (c : Call) : Table × Option (String × String) :=
  match (c.args.head?).bind Value.asText? with
  | none => (t, none)
  | some reference =>
    let columnName := reference ++ "_id"
    let typ := ((c.optionText? "type").map TypeName.normalizeSchemaRb).getD "bigint"
    let t := t.addColumn
      { name := columnName, type := typ, notNull := c.optionIs "null" false,
        comment := c.optionText? "comment" }
    let t := if c.optionIs "polymorphic" true then
        t.addColumn (Column.new (reference ++ "_type") "varchar") else t
    let t := if !c.optionIs "index" false then
        addIndex t { name := "index_" ++ t.name ++ "_on_" ++ columnName, columns := [columnName] }
      else t
    (t, if c.optionIs "foreign_key" true then some (columnName, Inflect.pluralize reference) else none)

/-- Reflect the primary key on the flags of its columns. -/
def markPrimaryColumns (t : Table) : Table :=
  match t.primaryKey? with
  | some (.primaryKey _ columns) =>
    let single := columns.length == 1
    columns.foldl (fun t n => t.modifyColumn n fun c =>
      { c with primary := true, notNull := true, unique := c.unique || single }) t
  | _ => t

namespace Builder

def warn (b : Builder) (c : Call) (message : String) : Builder :=
  { b with problems := b.problems ++ [.unexpectedToken message (some c.offset)] }

def dangling (b : Builder) (table what : String) : Builder :=
  { b with problems := b.problems ++
    [.danglingReference (what ++ " targets missing table \"" ++ table ++ "\"")] }

/-- Change an existing table; a missing one is reported as dangling. -/
def withTable (b : Builder) (table what : String) (f : Table → Table) : Builder :=
  if b.schema.tables.contains table then { b with schema := b.schema.modifyTable table f }
  else b.dangling table what

/-- Store a foreign key constraint and its relationship. -/
def link (b : Builder) (fk : ForeignKeyLink) : Builder :=
  if b.schema.tables.contains fk.table then
    let c : Constraint := .foreignKey (fk.name.getD ("fk_" ++ fk.table ++ "_" ++ fk.column)) [fk.column]
      fk.targetTable [fk.targetColumn] fk.onUpdate fk.onDelete
    let rel : Relationship := { Relationship.new fk.targetTable fk.targetColumn fk.table fk.column with
      onUpdate := fk.onUpdate, onDelete := fk.onDelete }
    { b with schema := (b.schema.modifyTable fk.table (·.addConstraint c)).addRelationship rel }
  else b.dangling fk.table "foreign key"

/-- Apply one call of a `create_table` block to the table. -/
def tableCall (b : Builder) (t : Table) (fks : List (String × String)) (inner : Call) :
    Builder × Table × List (String × String) :=
  if inner.receiver.isNone then (b, t, fks)
  else
    match inner.name with
    | "index" => (b, addIndex t (indexFromCall t.name inner 0), fks)
    | "check_constraint" =>
      match inner.strings.head? with
      | some detail =>
        (b, t.addConstraint (.check ((inner.optionText? "name").getD (checkName t)) detail), fks)
      | none => (b.warn inner "Check constraint must have one string of its detail", t, fks)
    | "references" | "belongs_to" =>
      let (t, fk) := references t inner
      (b, t, fks ++ fk.toList)
    | "timestamps" =>
      let notNull := !inner.optionIs "null" true
      let t := ["created_at", "updated_at"].foldl (fun t n =>
        t.addColumn { name := n, type := "timestamp", notNull }) t
      (b, t, fks)
    | typ =>
      let t := inner.strings.foldl (fun t name =>
        let col := columnFromCall typ name inner
        let t := if col.unique then t.addConstraint (.unique ("UNIQUE_" ++ name) [name]) else t
        t.addColumn col) t
      (b, t, fks)

def createTable (b : Builder) (c : Call) : Builder :=
  match c.strings.head? with
  | none =>
    { b with problems := b.problems ++
      [.unsupported "Expected a string for the table name, but received different data" (some c.offset)] }
  | some name =>
    let t : Table := { name, comment := c.optionText? "comment" }
    let t := match c.option? "primary_key" with
      | some (.array items) =>
        let columns := items.filterMap Value.asText?
        t.addConstraint (.primaryKey ("PRIMARY_" ++ "_".intercalate columns) columns)
      | pk =>
        if c.optionIs "id" false then t
        else
          let idName := (pk.bind Value.asText?).getD "id"
          let idType := (((c.option? "id").bind Value.asText?).map TypeName.normalizeSchemaRb).getD "bigserial"
          let id := { (Column.new idName idType).markPrimary with
            default := (c.option? "default").bind defaultValue? }
          (t.addColumn id).addConstraint (.primaryKey ("PRIMARY_" ++ idName) [idName])
    let (b, t, fks) := c.block.foldl (fun (b, t, fks) inner => tableCall b t fks inner)
      (b, t, ([] : List (String × String)))
    let t := markPrimaryColumns t
    let b := { b with schema := b.schema.addTable t }
    fks.foldl (fun b (column, target) => b.link
      { table := name, column, targetTable := target, targetColumn := "id", name := none
        onUpdate := .noAction, onDelete := .noAction }) b

def addIndexCall (b : Builder) (c : Call) : Builder :=
  match c.strings.head? with
  | none => b.warn c "add_index needs a table name"
  | some table => b.withTable table "index" fun t => addIndex t (indexFromCall table c 1)

def addCheckConstraint (b : Builder) (c : Call) : Builder :=
  match c.strings with
  | [table, detail] =>
    b.withTable table "check constraint" fun t =>
      t.addConstraint (.check ((c.optionText? "name").getD (checkName t)) detail)
  | _ => b.warn c "Check constraint must have one table name and its detail"

def addForeignKey (b : Builder) (c : Call) : Builder :=
  match c.strings with
  | [fromTable, toTable] =>
    let action (key : String) : Action := ((c.optionText? key).bind Action.ofSql?).getD .noAction
    b.link
      { table := fromTable
        column := (c.optionText? "column").getD (Inflect.singularize toTable ++ "_id")
        targetTable := toTable
        targetColumn := (c.optionText? "primary_key").getD "id"
        name := c.optionText? "name"
        onUpdate := action "on_update"
        onDelete := action "on_delete" }
  | _ => b.warn c "Foreign key relationship must have two table names"

def createEnum (b : Builder) (c : Call) : Builder :=
  match c.strings.head? with
  | none => b.warn c "create_enum needs a name"
  | some name =>
    let values := ((c.args[1]?).map Value.texts).getD []
    { b with schema := { b.schema with enums := b.schema.enums.insert name { name, values } } }

/-- Apply one top-level call. -/
def apply (b : Builder) (c : Call) : Builder :=
  if c.receiver.isSome then b
  else
    match c.name with
    | "create_table" => b.createTable c
    | "add_index" => b.addIndexCall c
    | "add_foreign_key" => b.addForeignKey c
    | "add_check_constraint" => b.addCheckConstraint c
    | "create_enum" => b.createEnum c
    | "enable_extension" =>
      c.strings.foldl (fun b n =>
        let n := Extensions.normalize n
        { b with schema := { b.schema with extensions := b.schema.extensions.insert n ⟨n⟩ } }) b
    | _ => b

end Builder

/-- Read a `schema.rb` file. -/
def parseSchemaRb (text : String) : Reading :=
  let (calls, errors) := parseCalls text
  let init : Builder := { problems := errors.map fun e => .unexpectedToken e.message e.offset? }
  let b := calls.foldl Builder.apply init
  { value := b.schema, problems := b.problems }

end Rails

end Schemata
