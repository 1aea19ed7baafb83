import Schemata.Text.Unicode.WhiteSpace
import Schemata.Text.Unicode.Case
import Schemata.Text.Search

/-!
# Source formats

A schema source is PostgreSQL DDL, a Rails `schema.rb`, a Prisma schema or a
tbls JSON document. The format can be named (case-insensitively, with a few
aliases each) or detected from the content: a document starting with `{` is
tbls; one mentioning `ActiveRecord::Schema` or `create_table ` is
`schema.rb`; one with a line that opens a `model`, `datasource` or
`generator` block is Prisma; anything else is PostgreSQL.
-/

namespace Schemata

/-- The source formats; `auto` asks for detection. -/
inductive Format where
  | auto
  | postgres
  | schemaRb
  | prisma
  | tbls
deriving Repr, DecidableEq, Inhabited

namespace Format

/-- The format a name stands for, ignoring case. -/
def ofName? (s : String) : Option Format :=
  match Unicode.lowercase s with
  | "auto" => some auto
  | "postgres" | "postgresql" | "sql" => some postgres
  | "schemarb" | "schema.rb" | "ruby" => some schemaRb
  | "prisma" => some prisma
  | "tbls" | "json" => some tbls
  | _ => none

def name : Format → String
  | auto => "auto"
  | postgres => "postgres"
  | schemaRb => "schemarb"
  | prisma => "prisma"
  | tbls => "tbls"

/-- Whether some line opens a block: starts with `keyword` after its
indentation and ends with `{` before trailing blanks. -/
def hasBlock (content keyword : String) : Bool :=
  (content.splitOn "\n").any fun line =>
    (Unicode.trimStart line).startsWith keyword && (Unicode.trimEnd line).endsWith "\x7b"

/-- The format the content looks like. -/
def detect (content : String) : Format :=
  if (Unicode.trimStart content).startsWith "\x7b" then tbls
  else if TextSearch.contains content "ActiveRecord::Schema" ||
      TextSearch.contains content "create_table " then schemaRb
  else if hasBlock content "model " || hasBlock content "datasource " ||
      hasBlock content "generator " then prisma
  else postgres

/-- A concrete format: `auto` is resolved by detection. -/
def resolve (f : Format) (content : String) : Format :=
  match f with
  | auto => detect content
  | other => other

end Format

end Schemata
