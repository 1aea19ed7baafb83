import Schemata.Text.Unicode.Case

/-!
# SQL tokens

The lexer knows a fixed set of keywords; any other word is an identifier,
folded to lower case. Quoted identifiers keep their case. A keyword can
still stand where a name is expected (a column called `key`), and then reads
as its lower-case spelling.
-/

namespace Schemata

namespace Sql

/-- The keywords of the DDL subset, spelled as in SQL. -/
inductive Keyword where
  | CREATE | ALTER | ADD | TABLE | ONLY | PRIMARY | KEY | FOREIGN | REFERENCES | NOT | NULL
  | UNIQUE | DEFAULT | ON | DELETE | UPDATE | CASCADE | RESTRICT | SET | NO | ACTION
  | CONSTRAINT | INDEX | IF | EXISTS | CHECK | COMMENT | IS | COLUMN | EXTENSION | TYPE | AS
  | ENUM | USING | TRUE | FALSE | COLLATE | GENERATED
deriving Repr, DecidableEq, Inhabited

namespace Keyword

def all : List Keyword :=
  [CREATE, ALTER, ADD, TABLE, ONLY, PRIMARY, KEY, FOREIGN, REFERENCES, NOT, NULL, UNIQUE,
   DEFAULT, ON, DELETE, UPDATE, CASCADE, RESTRICT, SET, NO, ACTION, CONSTRAINT, INDEX, IF,
   EXISTS, CHECK, COMMENT, IS, COLUMN, EXTENSION, TYPE, AS, ENUM, USING, TRUE, FALSE, COLLATE,
   GENERATED]

/-- The keyword in upper case. -/
def text : Keyword → String
  | CREATE => "CREATE" | ALTER => "ALTER" | ADD => "ADD" | TABLE => "TABLE" | ONLY => "ONLY"
  | PRIMARY => "PRIMARY" | KEY => "KEY" | FOREIGN => "FOREIGN" | REFERENCES => "REFERENCES"
  | NOT => "NOT" | NULL => "NULL" | UNIQUE => "UNIQUE" | DEFAULT => "DEFAULT" | ON => "ON"
  | DELETE => "DELETE" | UPDATE => "UPDATE" | CASCADE => "CASCADE" | RESTRICT => "RESTRICT"
  | SET => "SET" | NO => "NO" | ACTION => "ACTION" | CONSTRAINT => "CONSTRAINT"
  | INDEX => "INDEX" | IF => "IF" | EXISTS => "EXISTS" | CHECK => "CHECK"
  | COMMENT => "COMMENT" | IS => "IS" | COLUMN => "COLUMN" | EXTENSION => "EXTENSION"
  | TYPE => "TYPE" | AS => "AS" | ENUM => "ENUM" | USING => "USING" | TRUE => "TRUE"
  | FALSE => "FALSE" | COLLATE => "COLLATE" | GENERATED => "GENERATED"

/-- The keyword an upper-cased word spells, if any. -/
def ofUpper? (s : String) : Option Keyword := all.find? (·.text == s)

end Keyword

/-- A token of SQL text. -/
inductive Token where
  | keyword (k : Keyword)
  /-- An unquoted word other than a keyword, in lower case. -/
  | ident (s : String)
  | quotedIdent (s : String)
  | str (s : String)
  | num (s : String)
  | lparen
  | rparen
  | lbracket
  | rbracket
  | comma
  | semicolon
  | dot
  | doubleColon
  | op (c : Char)
deriving Repr, DecidableEq, Inhabited

namespace Token

/-- The token of a word read from the text: a keyword when its upper case
spells one, otherwise an identifier in lower case. -/
def ofWord (w : String) : Token :=
  match Keyword.ofUpper? (Unicode.uppercase w) with
  | some k => keyword k
  | none => ident (Unicode.lowercase w)

/-- The name a token gives where a name is expected. -/
def identText : Token → Option String
  | ident s | quotedIdent s => some s
  | keyword k => some (String.map Char.toLower k.text)
  | _ => none

/-- Whether two texts agree up to the case of ASCII letters. -/
def equalsIgnoringAsciiCase (a b : String) : Bool :=
  a.length == b.length && (a.toList.zip b.toList).all fun (c, d) => c.toLower == d.toLower

/-- Whether the token is the identifier `w`, ignoring ASCII case. -/
def isWord (t : Token) (w : String) : Bool :=
  match t with
  | ident s => equalsIgnoringAsciiCase s w
  | _ => false

end Token

/-- A token and the character positions `[start, stop)` it was read from. -/
structure Spanned where
  token : Token
  start : Nat
  stop : Nat
deriving Repr, Inhabited

end Sql

end Schemata
