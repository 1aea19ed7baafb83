import Schemata.Sql.Lexer
import Schemata.Sql.Statement
import Schemata.Decimal.Parse
import Schemata.Text.Unicode.WhiteSpace

/-!
# The SQL statement parser

The parser reads the tokens of one statement (its `;` removed) and returns
the statement, `other` for anything outside the DDL subset, or the first
error. An error names the token it stopped at, quoting the token's text from
the source, or says that the statement ended early.

Literal defaults become typed values: a string, `TRUE`, `FALSE` or a number,
alone or followed by a `::` cast. A number is an integer when it fits in 64
bits and a double otherwise. Any other default keeps its SQL text, and a bare
word that is not a known value function is put in parentheses so that it
still reads as an expression.

Every loop of the parser carries a fuel bound of one more than the number of
tokens; each round consumes a token or ends the loop.
-/

namespace Schemata

namespace Sql

/-- Why a statement does not parse. -/
inductive StatementError where
  /-- `found` is the quoted token text, `offset` its byte offset. -/
  | unexpectedToken (found : String) (expected : String) (offset : Nat)
  | unexpectedEnd (expected : String)
deriving Repr, DecidableEq, Inhabited

namespace StatementError

def message : StatementError → String
  | .unexpectedToken found expected _ => "syntax error at or near " ++ found ++ ", expected " ++ expected
  | .unexpectedEnd expected => "unexpected end of statement, expected " ++ expected

def offset? : StatementError → Option Nat
  | .unexpectedToken _ _ o => some o
  | .unexpectedEnd _ => none

end StatementError

/-- What the parser reads: the statement's tokens and the text they point into. -/
structure ParserEnv where
  tokens : Array Spanned
  source : SourceText

/-- A parser reads the environment and moves a token position. -/
abbrev Parser := ReaderT ParserEnv (StateT Nat (Except StatementError))

namespace Parser

def current : Parser (Option Token) := do
  let env ← read
  return (env.tokens[← get]?).map (·.token)

def peekNext : Parser (Option Token) := do
  let env ← read
  return (env.tokens[(← get) + 1]?).map (·.token)

def advance : Parser Unit := do
  let env ← read
  modify fun p => if p < env.tokens.size then p + 1 else p

/-- The loop bound: one more than the number of tokens. -/
def budget : Parser Nat := do return (← read).tokens.size + 1

/-- The error for the current position. -/
def unexpected (expected : String) : Parser StatementError := do
  let env ← read
  match env.tokens[← get]? with
  | none => return .unexpectedEnd expected
  | some s =>
    return .unexpectedToken ("\"" ++ env.source.slice s.start s.stop ++ "\"") expected
      (env.source.byteAt s.start)

def fail {α : Type} (expected : String) : Parser α := do throw (← unexpected expected)

def isKeyword (k : Keyword) : Option Token → Bool
  | some (.keyword k') => k == k'
  | _ => false

def isWord (w : String) : Option Token → Bool
  | some t => t.isWord w
  | none => false

def atKeyword (k : Keyword) : Parser Bool := do return isKeyword k (← current)

def atWord (w : String) : Parser Bool := do return isWord w (← current)

def expect (t : Token) (expected : String) : Parser Unit := do
  if (← current) == some t then advance else fail expected

def expectKeyword (k : Keyword) (expected : String) : Parser Unit := expect (.keyword k) expected

def expectIdent (expected : String) : Parser String := do
  match (← current).bind Token.identText with
  | some name => advance; return name
  | none => fail expected

/-- Further `.name` parts after the first. -/
def namePartsLoop (expected : String) : Nat → List String → Parser (List String)
  | 0, acc => return acc.reverse
  | fuel + 1, acc => do
    if (← current) == some .dot then
      advance
      let part ← expectIdent expected
      namePartsLoop expected fuel (part :: acc)
    else return acc.reverse

/-- A dotted name, all its parts. -/
def nameParts (expected : String) : Parser (List String) := do
  let first ← expectIdent expected
  namePartsLoop expected (← budget) [first]

/-- A dotted name; only the last part is kept, schema qualifiers are dropped. -/
def qualifiedName (expected : String) : Parser String := do
  return ((← nameParts expected).getLast?).getD ""

def skipIfNotExists : Parser Unit := do
  if ← atKeyword .IF then
    advance
    if ← atKeyword .NOT then advance
    if ← atKeyword .EXISTS then advance

def skipIfExists : Parser Unit := do
  if (← atKeyword .IF) && isKeyword .EXISTS (← peekNext) then
    advance
    advance

/-- Skip to the next `,` or `)` at the current nesting level. -/
def skipElementLoop : Nat → Nat → Parser Unit
  | 0, _ => pure ()
  | fuel + 1, depth => do
    match ← current with
    | none => pure ()
    | some .lparen => advance; skipElementLoop fuel (depth + 1)
    | some .rparen => if depth == 0 then pure () else do advance; skipElementLoop fuel (depth - 1)
    | some .comma => if depth == 0 then pure () else do advance; skipElementLoop fuel depth
    | some _ => advance; skipElementLoop fuel depth

def skipElement : Parser Unit := do skipElementLoop (← budget) 0

def skipNullsDistinct : Parser Unit := do
  if ← atWord "nulls" then
    advance
    if ← atKeyword .NOT then advance
    advance

def skipNoInherit : Parser Unit := do
  if (← atKeyword .NO) && isWord "inherit" (← peekNext) then
    advance
    advance

/-! ## Column types -/

/-- Tokens that end a column type at nesting depth zero (`none` is the end). -/
def isTypeStop : Option Token → Bool
  | none => true
  | some (.keyword k) =>
    [Keyword.PRIMARY, .NOT, .NULL, .UNIQUE, .DEFAULT, .REFERENCES, .CHECK, .CONSTRAINT, .COLLATE,
      .GENERATED].contains k
  | some .comma | some .rparen => true
  | some _ => false

/-- Append a word to a type text, separated by a blank unless the text is
empty or ends in `(` or `.`. -/
def appendWord (text word : String) : String :=
  if !text.isEmpty && !(text.endsWith "(" || text.endsWith ".") then text ++ " " ++ word
  else text ++ word

def typeNameLoop : Nat → Nat → String → Parser String
  | 0, _, text => return text
  | fuel + 1, depth, text => do
    let token ← current
    if depth == 0 && isTypeStop token then return text
    let next? : Option (Nat × String) ← match token with
      | some .lparen => pure (some (depth + 1, text ++ "("))
      | some .lbracket => pure (some (depth + 1, text ++ "["))
      | some .rparen => pure (some (depth - 1, text ++ ")"))
      | some .rbracket => pure (some (depth - 1, text ++ "]"))
      | some .comma => pure (some (depth, text ++ ","))
      | some (.num n) => pure (some (depth, text ++ n))
      | some .dot => pure (some (depth, ""))
      | none => fail "')'"
      | some tok =>
        match tok.identText with
        | some word => pure (some (depth, appendWord text word))
        | none => pure none
    match next? with
    | none => return text
    | some (depth, text) =>
      advance
      typeNameLoop fuel depth text

/-- A column type, its words joined by blanks, modifiers and array brackets
kept; `public.t` reads as `t`. -/
def typeName : Parser String := do
  let text ← typeNameLoop (← budget) 0 ""
  if text.isEmpty then fail "column type" else return text

/-! ## Defaults and expressions -/

/-- Whether a default text is SQL to render as it is rather than a literal:
a known value function or a call. -/
def isSqlExpression (text : String) : Bool :=
  let t := Unicode.trim text
  ["CURRENT_TIMESTAMP", "CURRENT_DATE", "CURRENT_TIME", "LOCALTIME", "LOCALTIMESTAMP",
    "CURRENT_USER", "SESSION_USER", "NULL"].any (Token.equalsIgnoringAsciiCase · t) ||
    (t.endsWith ")" && t.contains '(')

/-- The SQL text of a default that is not a literal. -/
def expressionText (raw : String) : String :=
  let raw := Unicode.trim raw
  if isSqlExpression raw then raw else "(" ++ raw ++ ")"

/-- Keywords that end a default expression after its first token. -/
def isDefaultStop : Option Token → Bool
  | some (.keyword k) =>
    [Keyword.PRIMARY, .NOT, .NULL, .UNIQUE, .DEFAULT, .REFERENCES, .CHECK, .CONSTRAINT, .COLLATE,
      .GENERATED].contains k
  | _ => false

def defaultLoop (start : Nat) : Nat → Nat → Parser Nat
  | 0, depth => return depth
  | fuel + 1, depth => do
    let token ← current
    let pos ← get
    match token with
    | none => return depth
    | some .lparen => advance; defaultLoop start fuel (depth + 1)
    | some .rparen =>
      if depth == 0 then return depth else do advance; defaultLoop start fuel (depth - 1)
    | some .comma => if depth == 0 then return depth else do advance; defaultLoop start fuel depth
    | tok =>
      if depth == 0 && pos > start && isDefaultStop tok then return depth
      else do advance; defaultLoop start fuel depth

/-- The value of a numeric literal: an integer if it fits in 64 bits, else a
double, else its text. -/
def numberDefault (n : String) : DefaultValue :=
  match parseInt64? n with
  | some i => .int i
  | none =>
    match parseFloat? n with
    | some x => .float x
    | none => .text n

/-- The expression after `DEFAULT`; `none` for `DEFAULT NULL`. -/
def defaultExpr : Parser (Option DefaultValue) := do
  let start ← get
  let depth ← defaultLoop start (← budget) 0
  if depth > 0 then fail "')'"
  let env ← read
  let stop ← get
  let expr := (env.tokens.extract start stop).toList
  match expr.head?, expr.getLast? with
  | some first, some last =>
    let isLiteral := expr.length == 1 ||
      (expr[1]?.map (·.token)) == some .doubleColon
    let literal : Option DefaultValue := match first.token with
      | .str s => if isLiteral then some (.text s) else none
      | .keyword .TRUE => if isLiteral then some (.bool true) else none
      | .keyword .FALSE => if isLiteral then some (.bool false) else none
      | .num n => if isLiteral then some (numberDefault n) else none
      | _ => none
    if first.token == .keyword .NULL && expr.length == 1 then return none
    return some (literal.getD (.text (expressionText (env.source.slice first.start last.stop))))
  | _, _ => fail "default expression"

def parenLoop (openAt : Nat) : Nat → Nat → Parser String
  | 0, _ => return ""
  | fuel + 1, depth => do
    let env ← read
    match env.tokens[← get]? with
    | none => fail "')'"
    | some s =>
      if s.token == .lparen then do advance; parenLoop openAt fuel (depth + 1)
      else if s.token == .rparen then
        if depth == 1 then do
          advance
          return Unicode.trim (env.source.slice openAt s.start)
        else do advance; parenLoop openAt fuel (depth - 1)
      else do advance; parenLoop openAt fuel depth

/-- `( expr )`: the trimmed text between the outer parentheses. -/
def parenExpr : Parser String := do
  let env ← read
  match env.tokens[← get]? with
  | some s =>
    if s.token == .lparen then do
      advance
      parenLoop s.stop (← budget) 1
    else fail "'('"
  | none => fail "'('"

/-! ## Column lists and references -/

def columnListLoop : Nat → List String → Parser (List String)
  | 0, acc => return acc.reverse
  | fuel + 1, acc => do
    let c ← expectIdent "column name"
    match ← current with
    | some .comma => advance; columnListLoop fuel (c :: acc)
    | some .rparen => advance; return (c :: acc).reverse
    | _ => fail "',' or ')'"

/-- `( a, b, ... )`. -/
def columnList : Parser (List String) := do
  expect .lparen "'('"
  columnListLoop (← budget) []

/-- A referential action after `ON UPDATE` or `ON DELETE`. -/
def referenceAction : Parser Action := do
  let action ← match ← current with
    | some (.keyword .CASCADE) => pure Action.cascade
    | some (.keyword .RESTRICT) => pure .restrict
    | some (.keyword .SET) =>
      advance
      match ← current with
      | some (.keyword .NULL) => pure .setNull
      | some (.keyword .DEFAULT) => pure .setDefault
      | _ => fail "NULL or DEFAULT"
    | some (.keyword .NO) =>
      advance
      if ← atKeyword .ACTION then pure .noAction else fail "ACTION"
    | _ => fail "referential action"
  advance
  return action

def referenceLoop : Nat → ForeignKeyRef → Parser ForeignKeyRef
  | 0, r => return r
  | fuel + 1, r => do
    match ← current with
    | some (.keyword .ON) =>
      advance
      let isUpdate ← match ← current with
        | some (.keyword .UPDATE) => pure true
        | some (.keyword .DELETE) => pure false
        | _ => fail "UPDATE or DELETE"
      advance
      let action ← referenceAction
      referenceLoop fuel (if isUpdate then { r with onUpdate := action } else { r with onDelete := action })
    | tok =>
      if isWord "match" tok then do
        advance
        advance
        referenceLoop fuel r
      else return r

/-- The target after `REFERENCES` with its actions. -/
def reference : Parser ForeignKeyRef := do
  let table ← qualifiedName "referenced table"
  let columns ← if (← current) == some .lparen then columnList else pure []
  referenceLoop (← budget) { table, columns }

/-! ## Columns and constraints -/

/-- An optional `CONSTRAINT name` prefix. -/
def constraintName : Parser (Option String) := do
  if ← atKeyword .CONSTRAINT then
    advance
    return some (← expectIdent "constraint name")
  else return none

def columnConstraint : Parser ColumnConstraint := do
  let name ← constraintName
  match ← current with
  | some (.keyword .PRIMARY) =>
    advance
    expectKeyword .KEY "KEY"
    return .primaryKey name
  | some (.keyword .NOT) =>
    advance
    match ← current with
    | some (.keyword .NULL) => advance; return .notNull
    | tok => if isWord "deferrable" tok then do advance; return .ignored else fail "NULL"
  | some (.keyword .NULL) => advance; return .null
  | some (.keyword .UNIQUE) =>
    advance
    skipNullsDistinct
    return .unique name
  | some (.keyword .DEFAULT) =>
    advance
    return .defaultValue (← defaultExpr)
  | some (.keyword .CHECK) =>
    advance
    let detail ← parenExpr
    skipNoInherit
    return .check name detail
  | some (.keyword .REFERENCES) =>
    advance
    return .references name (← reference)
  | some (.keyword .COLLATE) =>
    advance
    let _ ← qualifiedName "collation"
    return .ignored
  | some (.keyword .GENERATED) =>
    skipElement
    return .ignored
  | tok =>
    if ["deferrable", "initially", "immediate", "deferred"].any (isWord · tok) then do
      advance
      return .ignored
    else fail "column constraint"

def columnConstraintsLoop : Nat → List ColumnConstraint → Parser (List ColumnConstraint)
  | 0, acc => return acc.reverse
  | fuel + 1, acc => do
    match ← current with
    | none | some .comma | some .rparen => return acc.reverse
    | _ => columnConstraintsLoop fuel ((← columnConstraint) :: acc)

def columnDef : Parser ColumnDef := do
  let name ← expectIdent "column name"
  let typeName ← typeName
  let constraints ← columnConstraintsLoop (← budget) []
  return { name, typeName, constraints }

/-- Whether a table constraint starts here. -/
def startsTableConstraint : Option Token → Bool
  | some (.keyword k) => [Keyword.CONSTRAINT, .PRIMARY, .UNIQUE, .CHECK, .FOREIGN].contains k
  | _ => false

def tableConstraint : Parser TableConstraint := do
  let name ← constraintName
  match ← current with
  | some (.keyword .PRIMARY) =>
    advance
    expectKeyword .KEY "KEY"
    let columns ← columnList
    skipElement
    return ⟨name, .primaryKey columns⟩
  | some (.keyword .UNIQUE) =>
    advance
    skipNullsDistinct
    let columns ← columnList
    skipElement
    return ⟨name, .unique columns⟩
  | some (.keyword .CHECK) =>
    advance
    let detail ← parenExpr
    skipElement
    return ⟨name, .check detail⟩
  | some (.keyword .FOREIGN) =>
    advance
    expectKeyword .KEY "KEY"
    let columns ← columnList
    expectKeyword .REFERENCES "REFERENCES"
    let target ← reference
    skipElement
    return ⟨name, .foreignKey columns target⟩
  | _ => fail "PRIMARY KEY, UNIQUE, CHECK or FOREIGN KEY"

/-! ## Statements -/

def tableElementsLoop : Nat → List TableElement → Parser (List TableElement)
  | 0, acc => return acc.reverse
  | fuel + 1, acc => do
    let tok ← current
    let acc ← if startsTableConstraint tok then do
        pure (.constraint (← tableConstraint) :: acc)
      else if isWord "like" tok || isWord "exclude" tok then do
        skipElement
        pure acc
      else do pure (.column (← columnDef) :: acc)
    match ← current with
    | some .comma => advance; tableElementsLoop fuel acc
    | some .rparen => advance; return acc.reverse
    | _ => fail "',' or ')'"

def createTable : Parser Statement := do
  skipIfNotExists
  let name ← qualifiedName "table name"
  match ← current with
  | some .lparen => advance
  | none => fail "'('"
  | some _ => return .other
  if (← current) == some .rparen then
    advance
    return .createTable name []
  return .createTable name (← tableElementsLoop (← budget) [])

def indexColumnsLoop : Nat → List String → Parser (List String)
  | 0, acc => return acc.reverse
  | fuel + 1, acc => do
    let tok ← current
    let next ← peekNext
    let plain := (tok.bind Token.identText).isSome && !(next == some .lparen || next == some .dot)
    let acc := if plain then ((tok.bind Token.identText).toList ++ acc) else acc
    skipElement
    match ← current with
    | some .comma => advance; indexColumnsLoop fuel acc
    | some .rparen => advance; return acc.reverse
    | _ => fail "',' or ')'"

def createIndex (unique : Bool) : Parser Statement := do
  if ← atWord "concurrently" then advance
  skipIfNotExists
  let name ← if ← atKeyword .ON then pure none else some <$> qualifiedName "index name"
  expectKeyword .ON "ON"
  if ← atKeyword .ONLY then advance
  let table ← qualifiedName "table name"
  let method ← if ← atKeyword .USING then do
      advance
      some <$> expectIdent "index method"
    else pure none
  expect .lparen "'('"
  let columns ← indexColumnsLoop (← budget) []
  return .createIndex { name, table, unique, method, columns }

def enumValuesLoop : Nat → List String → Parser (List String)
  | 0, acc => return acc.reverse
  | fuel + 1, acc => do
    let acc ← match ← current with
      | some (.str v) => do advance; pure (v :: acc)
      | _ => fail "enum label"
    match ← current with
    | some .comma => advance; enumValuesLoop fuel acc
    | some .rparen => advance; return acc.reverse
    | _ => fail "',' or ')'"

def createType : Parser Statement := do
  let name ← qualifiedName "type name"
  if !(← atKeyword .AS) || !isKeyword .ENUM (← peekNext) then return .other
  advance
  advance
  expect .lparen "'('"
  if (← current) == some .rparen then
    advance
    return .createEnum name []
  return .createEnum name (← enumValuesLoop (← budget) [])

def createLeadLoop : Nat → Bool → Parser Bool
  | 0, unique => return unique
  | fuel + 1, unique => do
    let tok ← current
    if isKeyword .UNIQUE tok then do advance; createLeadLoop fuel true
    else if ["or", "replace", "unlogged", "temp", "temporary", "global", "local"].any (isWord · tok)
    then do advance; createLeadLoop fuel unique
    else return unique

def create : Parser Statement := do
  let unique ← createLeadLoop (← budget) false
  match ← current with
  | some (.keyword .TABLE) => advance; createTable
  | some (.keyword .INDEX) => advance; createIndex unique
  | some (.keyword .TYPE) => advance; createType
  | some (.keyword .EXTENSION) =>
    advance
    skipIfNotExists
    return .createExtension (← expectIdent "extension name")
  | _ => return .other

def commentOn : Parser Statement := do
  advance
  expectKeyword .ON "ON"
  let target ← match ← current with
    | some (.keyword .TABLE) => do
      advance
      pure (some (CommentTarget.table (← qualifiedName "table name")))
    | some (.keyword .COLUMN) => do
      advance
      let parts ← nameParts "column name"
      match parts.reverse with
      | column :: table :: _ => pure (some (CommentTarget.column table column))
      | _ => fail "table.column"
    | _ => pure none
  match target with
  | none => return .other
  | some target =>
    expectKeyword .IS "IS"
    let text ← match ← current with
      | some (.str s) => pure (some s)
      | some (.keyword .NULL) => pure none
      | _ => fail "string or NULL"
    advance
    return .comment target text

def alterCommand : Parser AlterCommand := do
  match ← current with
  | none => fail "ALTER TABLE action"
  | some (.keyword .ADD) =>
    advance
    if startsTableConstraint (← current) then return .addConstraint (← tableConstraint)
    if ← atKeyword .COLUMN then advance
    skipIfNotExists
    return .addColumn (← columnDef)
  | some _ =>
    skipElement
    return .other

def alterLoop : Nat → List AlterCommand → Parser (List AlterCommand)
  | 0, acc => return acc.reverse
  | fuel + 1, acc => do
    let command ← alterCommand
    skipElement
    match ← current with
    | some .comma => advance; alterLoop fuel (command :: acc)
    | none => return (command :: acc).reverse
    | _ => fail "',' or end of statement"

def alterTable : Parser Statement := do
  skipIfExists
  if ← atKeyword .ONLY then advance
  let table ← qualifiedName "table name"
  return .alterTable table (← alterLoop (← budget) [])

def statement : Parser Statement := do
  match ← current with
  | some (.keyword .CREATE) => advance; create
  | some (.keyword .ALTER) =>
    advance
    if !(← atKeyword .TABLE) then return .other
    advance
    alterTable
  | some (.keyword .COMMENT) => commentOn
  | _ => return .other

end Parser

/-- Parse the tokens of one statement; `source` is the text their positions
point into. -/
def parseStatement (tokens : Array Spanned) (source : SourceText) :
    Except StatementError Statement :=
  (Parser.statement.run ⟨tokens, source⟩ |>.run 0).map (·.1)

end Sql

end Schemata
