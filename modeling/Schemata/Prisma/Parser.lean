import Schemata.Prisma.Lexer

/-!
# The Prisma schema parser

A schema is a sequence of blocks. `model` and `enum` blocks are kept;
`datasource`, `generator`, `type` and `view` blocks are skipped by matching
braces. A model holds fields (`name Type`, `Type?` or `Type[]`, then field
attributes `@name(args)`) and block attributes (`@@name(args)`); an enum holds
values, each optionally renamed by `@map("stored")`, and block attributes.
Attribute arguments are strings, numbers, words, calls and arrays, each
optionally labelled `label: value`.

A block that fails to parse is dropped and its error kept; parsing resumes at
the next block keyword that follows a closing brace or a documentation
comment. Every loop carries fuel: each step consumes a token, and once the
tokens are used up every path ends in an error within one step, so fuel of
twice the number of tokens is never exhausted.
-/

namespace Schemata

namespace Prisma

mutual

/-- A value in an attribute's arguments. -/
inductive Expr where
  | str (s : String)
  | num (s : String)
  | ident (s : String)
  | call (name : String) (args : List Arg)
  | array (items : List Expr)

/-- An argument, with its label when written `label: value`. -/
inductive Arg where
  | mk (name : Option String) (value : Expr)

end

instance : Inhabited Expr := ⟨.ident ""⟩

namespace Arg

def name : Arg → Option String
  | mk n _ => n

def value : Arg → Expr
  | mk _ v => v

end Arg

mutual

/-- A value as diagnostics show it: its variant name and payload, arguments
as records with their optional label. -/
def Expr.describe : Expr → String
  | .str s => "Str(" ++ Escape.quoted s ++ ")"
  | .num s => "Num(" ++ Escape.quoted s ++ ")"
  | .ident s => "Ident(" ++ Escape.quoted s ++ ")"
  | .call n args => "Call(" ++ Escape.quoted n ++ ", [" ++ Arg.describeAll args ++ "])"
  | .array items => "Array([" ++ Expr.describeAll items ++ "])"

def Expr.describeAll : List Expr → String
  | [] => ""
  | [e] => e.describe
  | e :: rest => e.describe ++ ", " ++ Expr.describeAll rest

def Arg.describe : Arg → String
  | .mk n v =>
    let label := match n with
      | some s => "Some(" ++ Escape.quoted s ++ ")"
      | none => "None"
    "Arg \x7b name: " ++ label ++ ", value: " ++ v.describe ++ " \x7d"

def Arg.describeAll : List Arg → String
  | [] => ""
  | [a] => a.describe
  | a :: rest => a.describe ++ ", " ++ Arg.describeAll rest

end

/-- How many values a field holds. -/
inductive Arity where
  | required
  | optional
  | list
deriving Repr, DecidableEq, Inhabited

/-- An attribute, its dotted name without the `@` (`id`, `db.VarChar`). -/
structure Attribute where
  name : String
  args : List Arg
deriving Inhabited

namespace Attribute

/-- The argument with a label, or the first unlabelled one for `none`. -/
def arg? (a : Attribute) : Option String → Option Expr
  | some n => (a.args.find? (·.name == some n)).map Arg.value
  | none => (a.args.find? (·.name.isNone)).map Arg.value

/-- A list of field names, `[a, b]`, or a single name. A call in the list
(`name(ops: ...)`) stands for its name. -/
def identList (a : Attribute) (label : Option String) : List String :=
  match a.arg? label with
  | some (.array items) => items.filterMap fun
    | .ident s | .call s _ => some s
    | _ => none
  | some (.ident s) => [s]
  | _ => []

/-- A string argument. -/
def strArg? (a : Attribute) (label : Option String) : Option String :=
  match a.arg? label with
  | some (.str s) => some s
  | _ => none

end Attribute

/-- A field of a model. `type` is the written type, or the quoted name of an
`Unsupported("...")` type. -/
structure Field where
  name : String
  type : String
  arity : Arity
  attributes : List Attribute
  doc : Option String
deriving Inhabited

/-- A model block. -/
structure Model where
  name : String
  fields : List Field
  attributes : List Attribute
  doc : Option String
deriving Inhabited

/-- An enum block, its values as stored. -/
structure EnumBlock where
  name : String
  values : List String
  mappedName : Option String
  doc : Option String
deriving Inhabited

/-- The blocks of a schema that describe tables and types. -/
structure Document where
  models : List Model := []
  enums : List EnumBlock := []
deriving Inhabited

/-- The first attribute of a name. -/
def Field.attribute? (f : Field) (name : String) : Option Attribute :=
  f.attributes.find? (·.name == name)

/-- The first block attribute of a name. -/
def Model.attribute? (m : Model) (name : String) : Option Attribute :=
  m.attributes.find? (·.name == name)

/-- The table name: the string of `@@map`, else the model name. -/
def Model.tableName (m : Model) : String :=
  ((m.attribute? "map").bind (·.strArg? none)).getD m.name

/-- Why a block failed to parse. -/
inductive ParseError where
  /-- The text could not be split into tokens. -/
  | lex (e : LexError)
  /-- A token other than the one the grammar needs. -/
  | unexpected (found : Token) (expected : String) (offset : Nat)
  /-- The tokens ran out; the offset is the length of the text. -/
  | unexpectedEnd (offset : Nat)
deriving Repr, Inhabited

namespace ParseError

def message : ParseError → String
  | .lex e => "Lex error: " ++ e.message
  | .unexpected found expected offset =>
    "Unexpected token " ++ found.describe ++ " at byte " ++ toString offset ++
      ", expected " ++ expected
  | .unexpectedEnd _ => "Unexpected end of input"

/-- The byte offset into the schema text. -/
def offset : ParseError → Nat
  | .lex e => e.offset
  | .unexpected _ _ o | .unexpectedEnd o => o

/-- The error for meeting `found` where `expected` was needed. -/
def unexpectedAt (found : Spanned) (expected : String) : ParseError :=
  match found.token with
  | .eof => .unexpectedEnd found.offset
  | t => .unexpected t expected found.offset

end ParseError

/-- The tokens and the fuel every loop starts with. -/
structure ParserEnv where
  tokens : Array Spanned
  budget : Nat

/-- A parser over the token array; the state is the position, which an error
leaves where it happened so that recovery can go on from there. -/
abbrev Parser := ExceptT ParseError (ReaderT ParserEnv (StateM Nat))

/-- The words that open a block. -/
def blockKeywords : List String := ["model", "enum", "datasource", "generator", "type", "view"]

namespace Parser

def budget : Parser Nat := return (← read).budget

/-- The token at the position; past the end, the final end token. -/
def current : Parser Spanned := do
  let ts := (← read).tokens
  return ts[← get]?.getD (ts.back?.getD ⟨.eof, 0⟩)

def peek : Parser Token := return (← current).token

def peekSecond : Parser (Option Token) := do
  return ((← read).tokens[(← get) + 1]?).map (·.token)

def advance : Parser Spanned := do
  let s ← current
  modify (· + 1)
  return s

def skip : Parser Unit := do
  let _ ← advance

/-- The error raised when fuel runs out; never reached. -/
def exhausted {α : Type} : Parser α := do
  throw (ParseError.unexpectedAt (← current) "more fuel")

def expectIdent : Parser String := do
  let next ← advance
  match next.token with
  | .ident s => return s
  | _ => throw (ParseError.unexpectedAt next "identifier")

def expect (t : Token) (what : String) : Parser Unit := do
  let next ← advance
  if next.token != t then throw (ParseError.unexpectedAt next what)

def checkIdent (w : String) : Parser Bool := return (← peek).isIdent w

/-- The lines of consecutive documentation comments. -/
def docLines : Nat → List String → Parser (List String)
  | 0, acc => return acc.reverse
  | fuel + 1, acc => do
    match ← peek with
    | .docComment line => skip; docLines fuel (line :: acc)
    | _ => return acc.reverse

/-- Consecutive documentation comments, joined by line feeds. -/
def takeDoc : Parser (Option String) := do
  let lines ← docLines (← budget) []
  return if lines.isEmpty then none else some ("\n".intercalate lines)

mutual

/-- Arguments after a consumed `(`, through the closing `)`. -/
def args : Nat → List Arg → Parser (List Arg)
  | 0, _ => exhausted
  | fuel + 1, acc => do
    if (← peek) == .rparen then
      skip
      return acc.reverse
    let label ← match (← peek), (← peekSecond) with
      | .ident s, some .colon => do skip; skip; pure (some s)
      | _, _ => pure none
    let value ← expr fuel
    let acc := Arg.mk label value :: acc
    let next ← advance
    match next.token with
    | .comma => args fuel acc
    | .rparen => return acc.reverse
    | _ => throw (ParseError.unexpectedAt next "',' or ')'")

/-- One value. -/
def expr : Nat → Parser Expr
  | 0 => exhausted
  | fuel + 1 => do
    let next ← advance
    match next.token with
    | .str s => return .str s
    | .num n => return .num n
    | .ident s =>
      if (← peek) == .lparen then
        skip
        return .call s (← args fuel [])
      else return .ident s
    | .lbracket => items fuel []
    | _ => throw (ParseError.unexpectedAt next "value")

/-- The items of an array after a consumed `[`, through the closing `]`. -/
def items : Nat → List Expr → Parser Expr
  | 0, _ => exhausted
  | fuel + 1, acc => do
    if (← peek) == .rbracket then
      skip
      return .array acc.reverse
    let item ← expr fuel
    let next ← advance
    match next.token with
    | .comma => items fuel (item :: acc)
    | .rbracket => return .array (item :: acc).reverse
    | _ => throw (ParseError.unexpectedAt next "',' or ']'")

end

/-- The rest of a dotted name after its first word. -/
def dottedName : Nat → String → Parser String
  | 0, name => return name
  | fuel + 1, name => do
    if (← peek) == .dot then
      skip
      dottedName fuel (name ++ "." ++ (← expectIdent))
    else return name

/-- An attribute after its consumed `@` or `@@`. -/
def attr : Parser Attribute := do
  let name ← dottedName (← budget) (← expectIdent)
  if (← peek) == .lparen then
    skip
    return { name, args := ← args (← budget) [] }
  else return { name, args := [] }

/-- The field attributes that follow, each introduced by `@`. -/
def fieldAttributes : Nat → List Attribute → Parser (List Attribute)
  | 0, acc => return acc.reverse
  | fuel + 1, acc => do
    if (← peek) == .atSign then
      skip
      fieldAttributes fuel ((← attr) :: acc)
    else return acc.reverse

/-- A field with the documentation before it. -/
def field (doc : Option String) : Parser Field := do
  let name ← expectIdent
  let written ← expectIdent
  let type ← if (← peek) == .lparen then do
      skip
      let inner ← advance
      expect .rparen "')'"
      pure (match inner.token with
        | .str s => s
        | _ => written)
    else pure written
  let arity ← match ← peek with
    | .question => do skip; pure Arity.optional
    | .lbracket => do skip; expect .rbracket "']'"; pure Arity.list
    | _ => pure Arity.required
  let attributes ← fieldAttributes (← budget) []
  return { name, type, arity, attributes, doc }

/-- The fields and block attributes of a model, up to its closing brace. -/
def modelBody : Nat → List Field → List Attribute → Parser (List Field × List Attribute)
  | 0, fs, as => return (fs.reverse, as.reverse)
  | fuel + 1, fs, as => do
    let doc ← takeDoc
    match ← peek with
    | .rbrace => return (fs.reverse, as.reverse)
    | .doubleAt =>
      skip
      modelBody fuel fs ((← attr) :: as)
    | _ => modelBody fuel ((← field doc) :: fs) as

/-- A model after its keyword. -/
def model (doc : Option String) : Parser Model := do
  let name ← expectIdent
  expect .lbrace "'\x7b'"
  let (fields, attributes) ← modelBody (← budget) [] []
  expect .rbrace "'\x7d'"
  return { name, fields, attributes, doc }

/-- The attributes of an enum value; a `@map` with a string renames it. -/
def valueAttributes : Nat → String → Parser String
  | 0, stored => return stored
  | fuel + 1, stored => do
    if (← peek) == .atSign then
      skip
      let a ← attr
      let stored := if a.name == "map" then (a.strArg? none).getD stored else stored
      valueAttributes fuel stored
    else return stored

/-- The values of an enum and its `@@map` name, up to its closing brace.
Every `@@map` sets the name, one without a string clears it. -/
def enumBody : Nat → List String → Option String → Parser (List String × Option String)
  | 0, vs, mapped => return (vs.reverse, mapped)
  | fuel + 1, vs, mapped => do
    let _ ← takeDoc
    let next ← current
    match next.token with
    | .rbrace => return (vs.reverse, mapped)
    | .doubleAt =>
      skip
      let a ← attr
      enumBody fuel vs (if a.name == "map" then a.strArg? none else mapped)
    | .ident value =>
      skip
      let stored ← valueAttributes (← budget) value
      enumBody fuel (stored :: vs) mapped
    | _ => throw (ParseError.unexpectedAt next "enum value")

/-- An enum after its keyword. -/
def enumBlock (doc : Option String) : Parser EnumBlock := do
  let name ← expectIdent
  expect .lbrace "'\x7b'"
  let (values, mappedName) ← enumBody (← budget) [] none
  expect .rbrace "'\x7d'"
  return { name, values, mappedName, doc }

/-- Skip tokens through the brace that closes depth `depth`. -/
def skipBraces : Nat → Nat → Parser Unit
  | 0, _ => return
  | fuel + 1, depth => do
    let next ← advance
    match next.token with
    | .lbrace => skipBraces fuel (depth + 1)
    | .rbrace => if depth ≤ 1 then return else skipBraces fuel (depth - 1)
    | .eof => throw (ParseError.unexpectedAt next "'\x7d'")
    | _ => skipBraces fuel depth

/-- A block of another kind after its keyword: a name and a braced body. -/
def skipBlock : Parser Unit := do
  let _ ← expectIdent
  expect .lbrace "'\x7b'"
  skipBraces (← budget) 1

/-- Skip to the next block keyword that follows a closing brace or a
documentation comment, or to the end. -/
def recover : Nat → Parser Unit
  | 0 => return
  | fuel + 1 => do
    if (← peek) == .eof then return
    let pos ← get
    let before : Option Token := ((← read).tokens[pos - 1]?).map (·.token)
    let closes : Bool := match before with
      | some .rbrace | some (.docComment _) => true
      | _ => false
    let afterBlock := pos > 0 && closes
    let word ← peek
    if afterBlock && blockKeywords.any word.isIdent then return
    skip
    recover fuel

/-- One block at the position, added to the document. -/
def block (doc : Option String) (d : Document) : Parser Document := do
  if ← checkIdent "model" then
    skip
    return { d with models := d.models ++ [← model doc] }
  else if ← checkIdent "enum" then
    skip
    return { d with enums := d.enums ++ [← enumBlock doc] }
  else if (blockKeywords.drop 2).any (← peek).isIdent then
    skip
    skipBlock
    return d
  else throw (ParseError.unexpectedAt (← current) "model, enum, datasource or generator")

/-- All blocks to the end, with the errors of the blocks dropped. -/
def blocks : Nat → Document → List ParseError → Parser (Document × List ParseError)
  | 0, d, es => return (d, es)
  | fuel + 1, d, es => do
    let doc ← takeDoc
    if (← peek) == .eof then return (d, es)
    let (d, es) ← tryCatch (do return (← block doc d, es))
      fun e => do
        recover (← budget)
        return (d, es ++ [e])
    blocks fuel d es

end Parser

/-- Parse a Prisma schema: the blocks that parse and the errors of the
others, or the lexing error that stopped everything. -/
def parseDocument (text : String) : Except ParseError (Document × List ParseError) :=
  match tokenize text with
  | .error e => .error (.lex e)
  | .ok tokens =>
    let env : ParserEnv := { tokens, budget := 2 * tokens.size + 8 }
    match (Id.run (((Parser.blocks env.budget {} []).run.run env).run 0)).1 with
    | .ok r => .ok r
    | .error e => .ok ({}, [e])

end Prisma

end Schemata
