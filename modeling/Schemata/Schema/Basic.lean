import Schemata.Schema.NameMap
import Schemata.Decimal.Binary64
import Schemata.Text.Unicode.Case
import Schemata.Text.Unicode.WhiteSpace

/-!
# The canonical schema

Every front-end reads its source into one model: tables of columns, indexes
and constraints, the relationships that foreign keys induce between tables,
table groups, enumerated types and extensions. Each collection maps names to
objects in insertion order.

A column may carry a literal default: a boolean, a 64-bit integer, a double,
or text (which also holds SQL expressions such as `now()`). A constraint is a
primary key, a uniqueness constraint, a check, or a foreign key with its
referential actions for updates and deletes.
-/

namespace Schemata

/-- What a foreign key does when the referenced row changes. -/
inductive Action where
  | cascade
  | restrict
  | setNull
  | setDefault
  | noAction
deriving Repr, DecidableEq, Inhabited

namespace Action

/-- The name of an action in schema JSON. -/
def jsonName : Action → String
  | .cascade => "CASCADE"
  | .restrict => "RESTRICT"
  | .setNull => "SET_NULL"
  | .setDefault => "SET_DEFAULT"
  | .noAction => "NO_ACTION"

/-- The phrase of an action in SQL. -/
def sqlText : Action → String
  | .cascade => "CASCADE"
  | .restrict => "RESTRICT"
  | .setNull => "SET NULL"
  | .setDefault => "SET DEFAULT"
  | .noAction => "NO ACTION"

def all : List Action := [.cascade, .restrict, .setNull, .setDefault, .noAction]

/-- The action with a given schema JSON name. -/
def ofJsonName? (s : String) : Option Action := all.find? (·.jsonName == s)

/-- Split at white space and underscores, dropping empty pieces. -/
def words (s : String) : List String :=
  let rec go : List Char → List Char → List String
    | [], cur => if cur.isEmpty then [] else [String.ofList cur.reverse]
    | c :: rest, cur =>
      if Unicode.isWhiteSpace c || c == '_' then
        (if cur.isEmpty then [] else [String.ofList cur.reverse]) ++ go rest []
      else go rest (c :: cur)
  go s.toList []

/-- Read an action phrase such as `SET NULL`, `set_null` or `nullify`: the
words, uppercased and joined by single spaces, name the action. -/
def ofSql? (phrase : String) : Option Action :=
  match " ".intercalate ((words phrase).map Unicode.uppercase) with
  | "CASCADE" => some .cascade
  | "RESTRICT" => some .restrict
  | "SET NULL" => some .setNull
  | "NULLIFY" => some .setNull
  | "SET DEFAULT" => some .setDefault
  | "NO ACTION" => some .noAction
  | _ => none

end Action

/-- How many rows of the foreign side one primary row may have. -/
inductive Cardinality where
  | oneToOne
  | oneToMany
deriving Repr, DecidableEq, Inhabited

def Cardinality.jsonName : Cardinality → String
  | .oneToOne => "ONE_TO_ONE"
  | .oneToMany => "ONE_TO_MANY"

/-- A literal column default. -/
inductive DefaultValue where
  | bool (b : Bool)
  | int (n : Int)
  | float (x : Binary64)
  | text (s : String)
deriving Repr, DecidableEq, Inhabited

/-- A column of a table. -/
structure Column where
  name : String
  type : String
  default : Option DefaultValue := none
  check : Option String := none
  primary : Bool := false
  notNull : Bool := false
  unique : Bool := false
  comment : Option String := none
deriving Repr, DecidableEq, Inhabited

/-- A column with a name and type and nothing else. -/
def Column.new (name type : String) : Column := { name, type }

/-- Primary key columns are also unique and not null. -/
def Column.markPrimary (c : Column) : Column :=
  { c with primary := true, unique := true, notNull := true }

/-- An index of a table; `method` is the access method, empty when unnamed. -/
structure Index where
  name : String
  columns : List String
  unique : Bool := false
  method : String := ""
deriving Repr, DecidableEq, Inhabited

/-- A table constraint. -/
inductive Constraint where
  | primaryKey (name : String) (columns : List String)
  | unique (name : String) (columns : List String)
  | check (name : String) (detail : String)
  | foreignKey (name : String) (columns : List String) (targetTable : String)
      (targetColumns : List String) (onUpdate onDelete : Action)
deriving Repr, DecidableEq, Inhabited

namespace Constraint

def name : Constraint → String
  | .primaryKey n _ => n
  | .unique n _ => n
  | .check n _ => n
  | .foreignKey n _ _ _ _ _ => n

/-- The columns a constraint names; a check names none. -/
def columnNames : Constraint → List String
  | .primaryKey _ cs => cs
  | .unique _ cs => cs
  | .check _ _ => []
  | .foreignKey _ cs _ _ _ _ => cs

def isForeignKey : Constraint → Bool
  | .foreignKey .. => true
  | _ => false

def isPrimaryKey : Constraint → Bool
  | .primaryKey .. => true
  | _ => false

end Constraint

/-- A table. -/
structure Table where
  name : String
  columns : NameMap Column := .empty
  indexes : NameMap Index := .empty
  constraints : NameMap Constraint := .empty
  comment : Option String := none
deriving Repr, Inhabited

namespace Table

def new (name : String) : Table := { name }

/-- Store a constraint under its name. -/
def addConstraint (t : Table) (c : Constraint) : Table :=
  { t with constraints := t.constraints.insert c.name c }

/-- Store a column under its name. -/
def addColumn (t : Table) (c : Column) : Table :=
  { t with columns := t.columns.insert c.name c }

/-- Store an index under its name. -/
def addIndex (t : Table) (i : Index) : Table :=
  { t with indexes := t.indexes.insert i.name i }

/-- The first primary key constraint. -/
def primaryKey? (t : Table) : Option Constraint := t.constraints.values.find? (·.isPrimaryKey)

/-- Change a present column. -/
def modifyColumn (t : Table) (name : String) (f : Column → Column) : Table :=
  { t with columns := t.columns.modify name f }

end Table

/-- A relationship between the referenced (primary) and the referencing
(foreign) side of a foreign key. -/
structure Relationship where
  name : String
  primaryTable : String
  primaryColumn : String
  foreignTable : String
  foreignColumn : String
  cardinality : Cardinality := .oneToMany
  onUpdate : Action := .noAction
  onDelete : Action := .noAction
deriving Repr, DecidableEq, Inhabited

/-- The name of a relationship: `{pt}_{pc}_to_{ft}_{fc}`. -/
def relationshipName (pt pc ft fc : String) : String := pt ++ "_" ++ pc ++ "_to_" ++ ft ++ "_" ++ fc

/-- A one-to-many relationship without actions, named from its ends. -/
def Relationship.new (pt pc ft fc : String) : Relationship :=
  { name := relationshipName pt pc ft fc, primaryTable := pt, primaryColumn := pc,
    foreignTable := ft, foreignColumn := fc }

structure TableGroup where
  name : String
  tables : List String := []
  comment : Option String := none
deriving Repr, DecidableEq, Inhabited

/-- An enumerated type. -/
structure EnumType where
  name : String
  values : List String := []
  comment : Option String := none
deriving Repr, DecidableEq, Inhabited

structure Extension where
  name : String
deriving Repr, DecidableEq, Inhabited

/-- A whole schema. -/
structure Schema where
  tables : NameMap Table := .empty
  relationships : NameMap Relationship := .empty
  tableGroups : NameMap TableGroup := .empty
  enums : NameMap EnumType := .empty
  extensions : NameMap Extension := .empty
deriving Repr, Inhabited

namespace Schema

def empty : Schema := {}

def addTable (s : Schema) (t : Table) : Schema := { s with tables := s.tables.insert t.name t }

def addRelationship (s : Schema) (r : Relationship) : Schema :=
  { s with relationships := s.relationships.insert r.name r }

def modifyTable (s : Schema) (name : String) (f : Table → Table) : Schema :=
  { s with tables := s.tables.modify name f }

end Schema

end Schemata
