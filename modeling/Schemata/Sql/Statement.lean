import Schemata.Schema.Basic

/-!
# SQL statements

The statements of the DDL subset as the parser reads them: tables with their
columns and constraints, indexes, enum types, extensions, comments and the
`ALTER TABLE` commands that add columns or constraints. Every other statement
is `other` and contributes nothing.
-/

namespace Schemata

namespace Sql

/-- The target of a foreign key. -/
structure ForeignKeyRef where
  table : String
  /-- Empty when the referenced table's primary key is meant. -/
  columns : List String
  onUpdate : Action := .noAction
  onDelete : Action := .noAction
deriving Repr, DecidableEq, Inhabited

/-- A constraint written after a column's type. -/
inductive ColumnConstraint where
  | primaryKey (name : Option String)
  | notNull
  | null
  | unique (name : Option String)
  /-- `none` for an explicit `DEFAULT NULL`. -/
  | defaultValue (value : Option DefaultValue)
  | check (name : Option String) (detail : String)
  | references (name : Option String) (target : ForeignKeyRef)
  /-- `COLLATE`, `GENERATED`, `DEFERRABLE` and the like. -/
  | ignored
deriving Repr, DecidableEq, Inhabited

/-- A column definition. -/
structure ColumnDef where
  name : String
  typeName : String
  constraints : List ColumnConstraint
deriving Repr, DecidableEq, Inhabited

inductive TableConstraintKind where
  | primaryKey (columns : List String)
  | unique (columns : List String)
  | check (detail : String)
  | foreignKey (columns : List String) (target : ForeignKeyRef)
deriving Repr, DecidableEq, Inhabited

/-- A table-level constraint, named or not. -/
structure TableConstraint where
  name : Option String
  kind : TableConstraintKind
deriving Repr, DecidableEq, Inhabited

inductive TableElement where
  | column (c : ColumnDef)
  | constraint (c : TableConstraint)
deriving Repr, DecidableEq, Inhabited

structure CreateIndex where
  name : Option String
  table : String
  unique : Bool
  method : Option String
  columns : List String
deriving Repr, DecidableEq, Inhabited

/-- What a `COMMENT ON` statement describes. -/
inductive CommentTarget where
  | table (table : String)
  | column (table column : String)
deriving Repr, DecidableEq, Inhabited

inductive AlterCommand where
  | addConstraint (c : TableConstraint)
  | addColumn (c : ColumnDef)
  | other
deriving Repr, DecidableEq, Inhabited

/-- A statement of the DDL subset. -/
inductive Statement where
  | createTable (name : String) (elements : List TableElement)
  | createIndex (index : CreateIndex)
  | createEnum (name : String) (values : List String)
  | createExtension (name : String)
  | comment (target : CommentTarget) (text : Option String)
  | alterTable (table : String) (commands : List AlterCommand)
  | other
deriving Repr, DecidableEq, Inhabited

end Sql

end Schemata
