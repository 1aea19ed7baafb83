import Schemata.Text.Unicode.WhiteSpace
import Schemata.Text.Unicode.Case

/-!
# Canonical type names

Every front-end names column types in the vocabulary of PostgreSQL. A
PostgreSQL type name is normalized by folding its aliases (`int4`,
`character varying`, `timestamp with time zone`, ...) into one spelling,
keeping a parenthesized modifier (with its blanks removed) right after the
base name and an array suffix at the end. Names that are not aliases keep
their spelling. Rails and Prisma types map onto the same vocabulary.
-/

namespace Schemata

namespace TypeName

open Unicode

/-- The canonical spelling of a lower-cased PostgreSQL alias, if it is one. -/
def postgresAlias? : String → Option String
  | "int" | "int4" | "integer" => some "integer"
  | "int8" | "bigint" => some "bigint"
  | "int2" | "smallint" => some "smallint"
  | "serial4" | "serial" => some "serial"
  | "serial8" | "bigserial" => some "bigserial"
  | "serial2" | "smallserial" => some "smallserial"
  | "float4" | "real" => some "real"
  | "float8" | "double precision" => some "double precision"
  | "decimal" | "numeric" => some "numeric"
  | "bool" | "boolean" => some "boolean"
  | "character varying" | "varchar" => some "varchar"
  | "character" | "char" | "bpchar" => some "char"
  | "timestamp without time zone" | "timestamp" => some "timestamp"
  | "timestamp with time zone" | "timestamptz" => some "timestamptz"
  | "time without time zone" | "time" => some "time"
  | "time with time zone" | "timetz" => some "timetz"
  | "bit varying" | "varbit" => some "bit varying"
  | _ => none

/-- The position of the first occurrence of `c`. -/
def firstIndex? (cs : List Char) (c : Char) : Option Nat := cs.findIdx? (· == c)

/-- The position of the last occurrence of `c`. -/
def lastIndex? (cs : List Char) (c : Char) : Option Nat :=
  (cs.reverse.findIdx? (· == c)).map fun i => cs.length - 1 - i

/-- Split a trimmed type name without array suffix into its base name (blanks
collapsed) and its modifier. The modifier runs from the first `(` to the last
`)` after it, or to the end when there is none; the base name is what stands
before and after it. -/
def splitModifier (raw : List Char) : String × Option String :=
  match firstIndex? raw '(' with
  | none => (" ".intercalate (words (String.ofList raw)), none)
  | some openAt =>
    let close := match lastIndex? raw ')' with
      | some c => if c > openAt then c else raw.length
      | none => raw.length
    let args := ((raw.take close).drop openAt).filter fun c => !isWhiteSpace c
    let rest := trim (String.ofList (raw.drop (close + 1)))
    let before := trim (String.ofList (raw.take openAt))
    (" ".intercalate (words (before ++ " " ++ rest)), some (String.ofList args ++ ")"))

/-- Normalize the characters of a PostgreSQL type name; `fuel` bounds the
array suffixes stripped. -/
def normalizePostgresChars : Nat → List Char → String
  | 0, _ => ""
  | fuel + 1, cs =>
    let raw := dropTrailingBlanks (dropBlanks cs)
    if raw.length ≥ 2 && raw.drop (raw.length - 2) == ['[', ']'] then
      normalizePostgresChars fuel (raw.take (raw.length - 2)) ++ "[]"
    else
      let (base, modifier) := splitModifier raw
      let canonical := (postgresAlias? (lowercase base)).getD base
      match modifier with
      | some m => canonical ++ m
      | none => canonical

/-- The canonical spelling of a PostgreSQL type name. -/
def normalizePostgres (raw : String) : String :=
  normalizePostgresChars (raw.length + 1) raw.toList

/-- The canonical spelling of a Rails column type. -/
def normalizeSchemaRb : String → String
  | "string" => "varchar"
  | "datetime" => "timestamp"
  | "binary" => "bytea"
  | "bit_varying" => "bit varying"
  | other => other

/-- The canonical type of a Prisma scalar type; `none` for models and enums. -/
def normalizePrisma? : String → Option String
  | "String" => some "text"
  | "Int" => some "integer"
  | "BigInt" => some "bigint"
  | "Float" => some "double precision"
  | "Decimal" => some "numeric(65,30)"
  | "Boolean" => some "boolean"
  | "DateTime" => some "timestamp(3)"
  | "Json" => some "jsonb"
  | "Bytes" => some "bytea"
  | _ => none

/-- The base type of a Prisma native type attribute, if it is a known one. -/
def prismaNativeBase? : String → Option String
  | "VarChar" => some "varchar"
  | "Char" => some "char"
  | "Text" => some "text"
  | "Uuid" => some "uuid"
  | "Integer" => some "integer"
  | "SmallInt" => some "smallint"
  | "BigInt" => some "bigint"
  | "Real" => some "real"
  | "DoublePrecision" => some "double precision"
  | "Decimal" => some "numeric"
  | "Boolean" => some "boolean"
  | "Timestamp" => some "timestamp"
  | "Timestamptz" => some "timestamptz"
  | "Date" => some "date"
  | "Time" => some "time"
  | "Timetz" => some "timetz"
  | "Json" => some "json"
  | "JsonB" => some "jsonb"
  | "ByteA" => some "bytea"
  | "Inet" => some "inet"
  | "Citext" => some "citext"
  | "Xml" => some "xml"
  | _ => none

/-- The type a Prisma native type attribute (`@db.VarChar(255)`) names; an
unknown attribute is read as a PostgreSQL type name. -/
def normalizePrismaNative (name : String) (args : List String) : String :=
  match prismaNativeBase? name with
  | none => normalizePostgres name
  | some base => if args.isEmpty then base else base ++ "(" ++ ",".intercalate args ++ ")"

end TypeName

end Schemata
