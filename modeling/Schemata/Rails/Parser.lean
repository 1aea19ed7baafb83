import Schemata.Rails.Lexer
import Schemata.Text.Unicode.Uppercase

/-!
# The `schema.rb` call parser

A `schema.rb` file is read as a list of method calls, each with an optional
receiver (`t.string`), positional arguments, keyword options and an optional
`do ... end` block of further calls. A statement that starts with a constant
(`ActiveRecord::Schema[7.1].define(...) do`) is read through: its block's
calls take its place. A statement that fails to parse is recorded and
skipped to the end of its line (with any block opened on it).

Argument values are strings, symbols, numbers, booleans, `nil`, arrays,
lambdas (`-> { "now()" }`, keeping a lone string body) and other expressions,
which are skipped.

The parser's recursion is bounded by a fuel argument larger than the number
of tokens; every step consumes a token or ends a loop. The statements of a
body take up to three rounds for one token: the body's, the statement's at a
constant, and the round of `through` that reads the constant.
-/

namespace Schemata

namespace Rails

/-- Why a statement does not parse. -/
inductive ParseError where
  | lex (e : LexError)
  | unexpected (found : Token) (expected : String) (offset : Nat)
deriving Repr, DecidableEq, Inhabited

namespace ParseError

def message : ParseError → String
  | .lex e => "Lex error: " ++ e.message
  | .unexpected found expected _ => "Unexpected token: " ++ found.describe ++ ", expected " ++ expected

def offset? : ParseError → Option Nat
  | .lex (.unterminatedString o) => some o
  | .lex (.invalidNumber _) => none
  | .unexpected _ _ o => some o

end ParseError

/-- An argument value. -/
inductive Value where
  | str (s : String)
  | symbol (s : String)
  | int (n : Int)
  | float (x : Binary64)
  | bool (b : Bool)
  | nil
  | array (items : List Value)
  /-- `-> { "now()" }`: the string when the body is a single string. -/
  | lambda (body : Option String)
  /-- Hashes, constants and other expressions that are not interpreted. -/
  | other
deriving Repr, Inhabited

namespace Value

/-- The text of a string or symbol. -/
def asText? : Value → Option String
  | str s | symbol s => some s
  | _ => none

/-- The texts of a string, a symbol, or an array of them. -/
def texts : Value → List String
  | array items => items.filterMap asText?
  | v => v.asText?.toList

def isBool (v : Value) (b : Bool) : Bool :=
  match v with
  | bool b' => b == b'
  | _ => false

end Value

/-- A method call with its arguments and block. -/
structure Call where
  receiver : Option String
  name : String
  args : List Value
  options : List (String × Value)
  block : List Call
  offset : Nat
deriving Repr, Inhabited

namespace Call

def option? (c : Call) (key : String) : Option Value := (c.options.find? (·.1 == key)).map (·.2)

def optionText? (c : Call) (key : String) : Option String := (c.option? key).bind Value.asText?

/-- Whether the option is the boolean `b`. -/
def optionIs (c : Call) (key : String) (b : Bool) : Bool := (c.option? key).any (·.isBool b)

/-- The positional string arguments, in order. -/
def strings (c : Call) : List String := c.args.filterMap fun | .str s => some s | _ => none

end Call

/-- The parser's state: the token position and the errors recorded. -/
structure ParserState where
  pos : Nat := 0
  errors : List ParseError := []

/-- A parser reads the tokens, keeps its state through failures, and may fail. -/
abbrev Parser := ExceptT ParseError (ReaderT (Array Spanned) (StateM ParserState))

namespace Parser

def peekAt (ahead : Nat) : Parser Token := do
  let tokens ← read
  return ((tokens[(← get).pos + ahead]?).map (·.token)).getD .eof

def peek : Parser Token := peekAt 0

/-- The offset of the current token, or of the last one past the end. -/
def offset : Parser Nat := do
  let tokens ← read
  return ((tokens[(← get).pos]? <|> tokens.back?).map (·.offset)).getD 0

def advance : Parser Token := do
  let t ← peek
  let tokens ← read
  modify fun s => if s.pos < tokens.size then { s with pos := s.pos + 1 } else s
  return t

def unexpected (expected : String) : Parser ParseError := do
  return .unexpected (← peek) expected (← offset)

def record (e : ParseError) : Parser Unit := modify fun s => { s with errors := s.errors ++ [e] }

def skipNewlinesLoop : Nat → Parser Unit
  | 0 => pure ()
  | fuel + 1 => do
    if (← peek) == .newline then
      let _ ← advance
      skipNewlinesLoop fuel

/-- The loop bound. A loop takes at most one round per token; a value takes
two per token, one for each `[` and one for the list it opens. -/
def budget : Parser Nat := do return 2 * (← read).size + 2

def skipNewlines : Parser Unit := do skipNewlinesLoop (← budget)

/-- Skip to the end of the line, with any `do ... end` block opened on it. -/
def skipStatementLoop : Nat → Nat → Parser Unit
  | 0, _ => pure ()
  | fuel + 1, depth => do
    let t ← peek
    match t with
    | .eof => pure ()
    | .newline => if depth == 0 then pure () else do let _ ← advance; skipStatementLoop fuel depth
    | _ =>
      if t.isIdent "do" then do let _ ← advance; skipStatementLoop fuel (depth + 1)
      else if t.isIdent "end" then
        if depth == 0 then pure () else do let _ ← advance; skipStatementLoop fuel (depth - 1)
      else do let _ ← advance; skipStatementLoop fuel depth

def skipStatement : Parser Unit := do skipStatementLoop (← budget) 0

def skipBlockParamsLoop : Nat → Parser Unit
  | 0 => pure ()
  | fuel + 1 => do
    match ← peek with
    | .pipe | .newline | .eof => pure ()
    | _ => let _ ← advance; skipBlockParamsLoop fuel

def skipBlockParams : Parser Unit := do
  if (← peek) == .pipe then
    let _ ← advance
    skipBlockParamsLoop (← budget)
    if (← peek) == .pipe then
      let _ ← advance

/-- Tokens up to the `}` closing an already consumed `{`, without line feeds. -/
def skipBracedLoop : Nat → Nat → List Token → Parser (List Token)
  | 0, _, body => return body.reverse
  | fuel + 1, depth, body => do
    let t ← advance
    match t with
    | .eof => return body.reverse
    | .lbrace => skipBracedLoop fuel (depth + 1) (t :: body)
    | .rbrace => if depth == 1 then return body.reverse else skipBracedLoop fuel (depth - 1) (t :: body)
    | .newline => skipBracedLoop fuel depth body
    | _ => skipBracedLoop fuel depth (t :: body)

def skipBraced : Parser (List Token) := do skipBracedLoop (← budget) 1 []

/-- Skip a constant path or method chain after a word. -/
def skipChainLoop : Nat → Parser Unit
  | 0 => pure ()
  | fuel + 1 => do
    let t ← peek
    let t1 ← peekAt 1
    if (t == .scope || t == .dot) && (match t1 with | .ident _ => true | _ => false) then
      let _ ← advance
      let _ ← advance
      skipChainLoop fuel

mutual

/-- One argument value. -/
def value : Nat → Parser Value
  | 0 => return .other
  | fuel + 1 => do
    match ← advance with
    | .str s => return .str s
    | .symbol s => return .symbol s
    | .int n => return .int n
    | .float x => return .float x
    | .ident "true" => return .bool true
    | .ident "false" => return .bool false
    | .ident "nil" => return .nil
    | .ident _ =>
      skipChainLoop (← budget)
      return .other
    | .lbracket => return .array (← arrayItems fuel [])
    | .arrow =>
      if (← peek) != .lbrace then throw (← unexpected "'\x7b'")
      let _ ← advance
      match ← skipBraced with
      | [.str s] => return .lambda (some s)
      | _ => return .lambda none
    | .lbrace =>
      let _ ← skipBraced
      return .other
    | found => throw (.unexpected found "value" (← offset))

/-- The items of an array whose `[` is consumed. -/
def arrayItems : Nat → List Value → Parser (List Value)
  | 0, items => return items.reverse
  | fuel + 1, items => do
    skipNewlines
    if (← peek) == .rbracket then
      let _ ← advance
      return items.reverse
    let v ← value fuel
    skipNewlines
    match ← advance with
    | .comma => arrayItems fuel (v :: items)
    | .rbracket => return (v :: items).reverse
    | found => throw (.unexpected found "',' or ']'" (← offset))

end

/-- Whether the arguments of a call end here. -/
def atArgumentsEnd (inParens : Bool) : Parser Bool := do
  let t ← peek
  match t with
  | .eof => return true
  | .rparen => return inParens
  | .newline => return !inParens
  | _ => return t.isIdent "do" || t.isIdent "end"

/-- Positional arguments and options, added to the call reversed. -/
def argumentsLoop (inParens : Bool) : Nat → List Value → List (String × Value) →
    Parser (List Value × List (String × Value))
  | 0, args, opts => return (args, opts)
  | fuel + 1, args, opts => do
    if inParens then skipNewlines
    if ← atArgumentsEnd inParens then return (args, opts)
    let (args, opts) ← match ← peek with
      | .label key =>
        let _ ← advance
        skipNewlines
        let v ← value (← budget)
        pure (args, (key, v) :: opts)
      | _ =>
        if (← peekAt 1) == .fatArrow then do
          let key ← value (← budget)
          let _ ← advance
          let v ← value (← budget)
          match key.asText? with
          | some k => pure (args, (k, v) :: opts)
          | none => pure (args, opts)
        else do
          let v ← value (← budget)
          pure (v :: args, opts)
    if (← peek) == .comma then
      let _ ← advance
      skipNewlines
      argumentsLoop inParens fuel args opts
    else return (args, opts)

def endOfStatement : Parser Unit := do
  let t ← peek
  match t with
  | .newline | .eof => pure ()
  | _ => if t.isIdent "end" then pure () else throw (← unexpected "end of line")

/-- Whether a word starts with an upper-case letter (a constant). -/
def isConstant (name : String) : Bool := (name.toList.head?).any Unicode.isUppercase

/-- The rest of a call after its first name, which starts at `at_`: a method
after a dot, the arguments with or without parentheses, and a `do` block, whose
statements `readBlock` reads. -/
def callAfterName (at_ : Nat) (name : String) (readBlock : Parser (List Call)) :
    Parser (List Call) := do
  let (receiver, name) ← if (← peek) == .dot then do
      let _ ← advance
      match ← advance with
      | .ident method => pure (some name, method)
      | found => throw (.unexpected found "method name" (← offset))
    else pure (none, name)
  let (args, opts) ← if (← peek) == .lparen then do
      let _ ← advance
      let r ← argumentsLoop true (← budget) [] []
      match ← advance with
      | .rparen => pure r
      | found => throw (.unexpected found "')'" (← offset))
    else argumentsLoop false (← budget) [] []
  let block ← if (← peek).isIdent "do" then do
      let _ ← advance
      skipBlockParams
      readBlock
    else pure []
  endOfStatement
  return [{ receiver, name, args := args.reverse, options := opts.reverse, block, offset := at_ }]

mutual

/-- Statements up to `end` (inside a block) or the end of the input. -/
def body : Nat → Bool → List Call → Parser (List Call)
  | 0, _, calls => return calls
  | fuel + 1, inBlock, calls => do
    skipNewlines
    let t ← peek
    if t == .eof then return calls
    if inBlock && t.isIdent "end" then
      let _ ← advance
      return calls
    let start := (← get).pos
    let parsed ← tryCatch (statement fuel) fun e => do
      record e
      if (← get).pos == start then
        let _ ← advance
      skipStatement
      pure []
    body fuel inBlock (calls ++ parsed)

/-- One statement: a call, or the block of a constant receiver. -/
def statement : Nat → Parser (List Call)
  | 0 => return []
  | fuel + 1 => do
    let at_ ← offset
    let name ← match ← peek with
      | .ident name => pure name
      | _ => throw (← unexpected "method call")
    if isConstant name then
      return (← through fuel)
    let _ ← advance
    callAfterName at_ name (body fuel true [])

/-- Read through a constant receiver chain to its block, if it has one on
this line. -/
def through : Nat → Parser (List Call)
  | 0 => return []
  | fuel + 1 => do
    let t ← peek
    match t with
    | .eof | .newline => return []
    | _ =>
      if t.isIdent "do" then do
        let _ ← advance
        skipBlockParams
        body fuel true []
      else do
        let _ ← advance
        through fuel

end

end Parser

/-- Parse a `schema.rb` text into its calls and the errors met, the lexing
error first. -/
def parseCalls (text : String) : List Call × List ParseError :=
  let (tokens, lexError) := tokenize text
  let tokens := tokens.toArray
  let init : ParserState := { errors := lexError.toList.map .lex }
  let fuel := 3 * tokens.size + 8
  let (result, st) := ((Parser.body fuel false []).run.run tokens).run init
  match result with
  | .ok calls => (calls, st.errors)
  | .error e => ([], st.errors ++ [e])

end Rails

end Schemata
