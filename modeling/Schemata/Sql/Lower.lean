import Schemata.Sql.Statement
import Schemata.Parse.Problem
import Schemata.Schema.Types
import Schemata.Schema.Extensions

/-!
# From SQL statements to a schema

Each statement is lowered on its own to the fragments it contributes: a
table, a column, a constraint, a foreign key, an index, a comment, an enum
or an extension. The fragments are then absorbed into the schema under
construction in statement order; only there are other tables looked at.

Unnamed constraints are named from their kind and columns (`PRIMARY_id`,
`UNIQUE_tenant_id_email`), an unnamed check on a table from the table
(`CHECK_orders`), an unnamed index from its table and columns
(`users_email_idx`), and a foreign key after its relationship
(`users_id_to_posts_user_id`). A key constraint also sets the flags of the
columns it covers. A foreign key without target columns targets the primary
key of the referenced table as it is known at that point, or `id`; only its
first column pair becomes a relationship. Fragments that target a missing
table or column are reported as dangling and dropped.
-/

namespace Schemata

namespace Sql

/-- A foreign key whose target columns may still need resolving. -/
structure PendingForeignKey where
  name : Option String
  columns : List String
  target : ForeignKeyRef
deriving Repr, Inhabited

/-- What one statement contributes to the schema. -/
inductive Fragment where
  | table (t : Table) (foreignKeys : List PendingForeignKey)
  | column (table : String) (c : Column) (constraints : List Constraint)
      (foreignKeys : List PendingForeignKey)
  | constraint (table : String) (c : Constraint)
  | foreignKey (table : String) (fk : PendingForeignKey)
  | index (table : String) (i : Index)
  | tableComment (table : String) (comment : Option String)
  | columnComment (table column : String) (comment : Option String)
  | enumType (e : EnumType)
  | extension (e : Extension)
  | warning (p : Problem)
deriving Repr, Inhabited

/-- `PRIMARY_id`, `UNIQUE_tenant_id_email`, `CHECK_price`. -/
def defaultName (pre : String) (parts : List String) : String := pre ++ "_" ++ "_".intercalate parts

/-- A column with the constraints and foreign keys written on it. -/
structure LoweredColumn where
  column : Column
  constraints : List Constraint
  foreignKeys : List PendingForeignKey

/-- Apply one column constraint. -/
def lowerColumnConstraint (acc : LoweredColumn) : ColumnConstraint → LoweredColumn
  | .primaryKey name =>
    let c := acc.column.markPrimary
    { acc with column := c,
               constraints := acc.constraints ++
                 [.primaryKey (name.getD (defaultName "PRIMARY" [c.name])) [c.name]] }
  | .notNull => { acc with column := { acc.column with notNull := true } }
  | .null | .ignored => acc
  | .unique name =>
    let c := { acc.column with unique := true }
    { acc with column := c,
               constraints := acc.constraints ++ [.unique (name.getD (defaultName "UNIQUE" [c.name])) [c.name]] }
  | .defaultValue v => { acc with column := { acc.column with default := v } }
  | .check name detail =>
    let c := { acc.column with check := some detail }
    { acc with column := c,
               constraints := acc.constraints ++ [.check (name.getD (defaultName "CHECK" [c.name])) detail] }
  | .references name target =>
    { acc with foreignKeys := acc.foreignKeys ++ [⟨name, [acc.column.name], target⟩] }

def lowerColumn (d : ColumnDef) : LoweredColumn :=
  d.constraints.foldl lowerColumnConstraint ⟨Column.new d.name (TypeName.normalizePostgres d.typeName), [], []⟩

/-- Reflect a key constraint on the flags of the columns it covers. -/
def markColumns (t : Table) : Constraint → Table
  | .primaryKey _ columns =>
    let single := columns.length == 1
    columns.foldl (fun t n => t.modifyColumn n fun c =>
      { c with primary := true, notNull := true, unique := c.unique || single }) t
  | .unique _ [n] => t.modifyColumn n fun c => { c with unique := true }
  | _ => t

/-- A table constraint as a constraint fragment or a foreign key fragment. -/
def lowerTableConstraint (table : String) (tc : TableConstraint) : Fragment :=
  match tc.kind with
  | .primaryKey columns =>
    .constraint table (.primaryKey (tc.name.getD (defaultName "PRIMARY" columns)) columns)
  | .unique columns => .constraint table (.unique (tc.name.getD (defaultName "UNIQUE" columns)) columns)
  | .check detail => .constraint table (.check (tc.name.getD (defaultName "CHECK" [table])) detail)
  | .foreignKey columns target => .foreignKey table ⟨tc.name, columns, target⟩

def lowerCreateTable (name : String) (elements : List TableElement) : Fragment :=
  let (t, constraints, fks) := elements.foldl (fun (t, cs, fks) e =>
    match e with
    | .column d =>
      let l := lowerColumn d
      (t.addColumn l.column, cs ++ l.constraints, fks ++ l.foreignKeys)
    | .constraint tc =>
      match lowerTableConstraint t.name tc with
      | .foreignKey _ fk => (t, cs, fks ++ [fk])
      | .constraint _ c => (t, cs ++ [c], fks)
      | _ => (t, cs, fks))
    (Table.new name, ([] : List Constraint), ([] : List PendingForeignKey))
  .table (constraints.foldl (fun t c => (markColumns t c).addConstraint c) t) fks

def lowerCreateIndex (ci : CreateIndex) : Fragment :=
  let name := ci.name.getD
    (if ci.columns.isEmpty then ci.table ++ "_idx" else ci.table ++ "_" ++ "_".intercalate ci.columns ++ "_idx")
  .index ci.table { name, columns := ci.columns, unique := ci.unique, method := ci.method.getD "" }

/-- The fragments a statement contributes. -/
def lower : Statement → List Fragment
  | .createTable name elements => [lowerCreateTable name elements]
  | .createIndex ci => [lowerCreateIndex ci]
  | .createEnum name values => [.enumType { name, values }]
  | .createExtension name => [.extension ⟨Extensions.normalize name⟩]
  | .comment (.table t) text => [.tableComment t text]
  | .comment (.column t c) text => [.columnComment t c text]
  | .alterTable table commands => commands.filterMap fun
    | .addConstraint tc => some (lowerTableConstraint table tc)
    | .addColumn d =>
      let l := lowerColumn d
      some (.column table l.column l.constraints l.foreignKeys)
    | .other => none
  | .other => []

/-- The schema under construction and the problems met building it. -/
structure ConvertState where
  schema : Schema := {}
  problems : List Problem := []
deriving Inhabited

namespace ConvertState

def dangling (st : ConvertState) (message : String) : ConvertState :=
  { st with problems := st.problems ++ [.danglingReference message] }

/-- Change an existing table; a missing one is reported as dangling. -/
def withTable (st : ConvertState) (table what : String) (f : Table → Table) : ConvertState :=
  if st.schema.tables.contains table then { st with schema := st.schema.modifyTable table f }
  else st.dangling (what ++ " targets missing table \"" ++ table ++ "\"")

/-- Store a foreign key of `table` with its relationship. -/
def absorbForeignKey (st : ConvertState) (table : String) (fk : PendingForeignKey) : ConvertState :=
  let targetColumns :=
    if fk.target.columns.isEmpty then
      match (st.schema.tables.get? fk.target.table).bind Table.primaryKey? with
      | some pk => pk.columnNames
      | none => ["id"]
    else fk.target.columns
  match fk.columns.head?, targetColumns.head? with
  | some column, some targetColumn =>
    let rel : Relationship :=
      { Relationship.new fk.target.table targetColumn table column with
        onUpdate := fk.target.onUpdate, onDelete := fk.target.onDelete }
    let c : Constraint := .foreignKey
      (fk.name.getD (relationshipName fk.target.table targetColumn table column))
      fk.columns fk.target.table targetColumns fk.target.onUpdate fk.target.onDelete
    if st.schema.tables.contains table then
      { st with schema := (st.schema.modifyTable table (·.addConstraint c)).addRelationship rel }
    else st.dangling ("foreign key targets missing table \"" ++ table ++ "\"")
  | _, _ => st

/-- Absorb one fragment. -/
def absorb (st : ConvertState) : Fragment → ConvertState
  | .table t fks =>
    let st := { st with schema := st.schema.addTable t }
    fks.foldl (fun st fk => st.absorbForeignKey t.name fk) st
  | .column table c constraints fks =>
    if st.schema.tables.contains table then
      let st := st.withTable table "column" fun t =>
        constraints.foldl Table.addConstraint (t.addColumn c)
      fks.foldl (fun st fk => st.absorbForeignKey table fk) st
    else st.dangling ("column targets missing table \"" ++ table ++ "\"")
  | .constraint table c => st.withTable table "constraint" fun t => (markColumns t c).addConstraint c
  | .foreignKey table fk => st.absorbForeignKey table fk
  | .index table i => st.withTable table "index" (·.addIndex i)
  | .tableComment table comment => st.withTable table "comment" fun t => { t with comment }
  | .columnComment table column comment =>
    if (st.schema.tables.get? table).any (·.columns.contains column) then
      { st with schema := st.schema.modifyTable table fun t =>
          t.modifyColumn column fun c => { c with comment } }
    else st.dangling ("comment targets missing column \"" ++ table ++ "\".\"" ++ column ++ "\"")
  | .enumType e => { st with schema := { st.schema with enums := st.schema.enums.insert e.name e } }
  | .extension e =>
    { st with schema := { st.schema with extensions := st.schema.extensions.insert e.name e } }
  | .warning p => { st with problems := st.problems ++ [p] }

end ConvertState

end Sql

end Schemata
