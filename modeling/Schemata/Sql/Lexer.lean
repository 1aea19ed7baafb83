import Schemata.Sql.Token
import Schemata.Text.Source
import Schemata.Text.Unicode.WhiteSpace
import Schemata.Text.Unicode.Alphabetic
import Schemata.Text.Unicode.Numeric

/-!
# The SQL lexer

Blanks (Unicode white space), `--` line comments and nested `/* */` block
comments separate tokens. A word starts with a letter or `_` and continues
with letters, digits, `_` and `$`. Strings are `'...'` with doubled quotes,
`E'...'` with backslash escapes, or dollar-quoted `$tag$...$tag$`; quoted
identifiers are `"..."`. A number is an optional `-`, digits with at most one
`.` before a digit, and exponents `e` followed by a digit or a sign. Every
other character is an operator token of its own.

Lexing stops at the first unterminated string, identifier or comment; the
tokens before it are kept and the position of the construct is reported.
-/

namespace Schemata

namespace Sql

open Unicode

/-- A construct runs to the end of the text; `start` is its character
position. -/
structure LexError where
  what : String
  start : Nat
deriving Repr, Inhabited

def isWordStart (c : Char) : Bool := isAlphabetic c || c == '_'

def isAlphanumeric (c : Char) : Bool := isAlphabetic c || isNumeric c

def isWordChar (c : Char) : Bool := isAlphanumeric c || c == '_' || c == '$'

def isAsciiDigit (c : Char) : Bool := '0' ≤ c && c ≤ '9'

namespace Lexer

variable (src : SourceText)

/-- The first position at or after `i` that does not satisfy `p`. -/
def skipWhile (p : Char → Bool) : Nat → Nat → Nat
  | 0, i => i
  | fuel + 1, i =>
    match src.get? i with
    | some c => if p c then skipWhile p fuel (i + 1) else i
    | none => i

/-- The position after a line comment starting at `i`: past the next line
feed, or the end. -/
def skipLineComment (fuel i : Nat) : Nat :=
  let j := skipWhile src (· != '\n') fuel i
  if j < src.size then j + 1 else j

/-- The position after a nested block comment whose `/*` is at `start`. -/
def skipBlockComment (start : Nat) : Nat → Nat → Nat → Except LexError Nat
  | 0, _, i => .ok i
  | fuel + 1, depth, i =>
    match src.get? i, src.get? (i + 1) with
    | none, _ => .error ⟨"block comment", start⟩
    | some '*', some '/' =>
      if depth == 1 then .ok (i + 2) else skipBlockComment start fuel (depth - 1) (i + 2)
    | some '/', some '*' => skipBlockComment start fuel (depth + 1) (i + 2)
    | some _, _ => skipBlockComment start fuel depth (i + 1)

/-- The body of a quoted run whose opening quote is at `start`, with the
quote escaped by doubling; returns the body and the position after it. -/
def readQuoted (q : Char) (what : String) (start : Nat) :
    Nat → List Char → Nat → Except LexError (String × Nat)
  | 0, acc, i => .ok (String.ofList acc.reverse, i)
  | fuel + 1, acc, i =>
    match src.get? i with
    | none => .error ⟨what, start⟩
    | some c =>
      if c == q then
        if src.get? (i + 1) == some q then readQuoted q what start fuel (q :: acc) (i + 2)
        else .ok (String.ofList acc.reverse, i + 1)
      else readQuoted q what start fuel (c :: acc) (i + 1)

/-- The body of an `E'...'` string whose `E` is at `start`. -/
def readEscaped (start : Nat) : Nat → List Char → Nat → Except LexError (String × Nat)
  | 0, acc, i => .ok (String.ofList acc.reverse, i)
  | fuel + 1, acc, i =>
    match src.get? i with
    | none => .error ⟨"string", start⟩
    | some '\\' =>
      match src.get? (i + 1) with
      | some e =>
        let d := match e with
          | 'n' => '\n'
          | 't' => '\t'
          | 'r' => '\r'
          | _ => e
        readEscaped start fuel (d :: acc) (i + 2)
      | none => readEscaped start fuel acc (i + 1)
    | some '\'' =>
      if src.get? (i + 1) == some '\'' then readEscaped start fuel ('\'' :: acc) (i + 2)
      else .ok (String.ofList acc.reverse, i + 1)
    | some c => readEscaped start fuel (c :: acc) (i + 1)

/-- The first position at or after `from` where the characters `pat` occur. -/
def findFrom (pat : List Char) : Nat → Nat → Option Nat
  | 0, _ => none
  | fuel + 1, i =>
    if i + pat.length > src.size then none
    else if (src.chars.extract i (i + pat.length)).toList == pat then some i
    else findFrom pat fuel (i + 1)

/-- A dollar-quoted string at `start` (a `$`): `none` when the `$` does not
open one, as in `$1`. -/
def readDollarQuoted (start : Nat) : Option (Except LexError (String × Nat)) :=
  let tagEnd := skipWhile src (fun c => isAlphanumeric c || c == '_') src.size (start + 1)
  if tagEnd ≥ src.size then none
  else if src.get? tagEnd != some '$' then none
  else if (src.get? (start + 1)).any isAsciiDigit && tagEnd > start + 1 then none
  else
    let delimiter := (src.chars.extract start (tagEnd + 1)).toList
    let bodyStart := tagEnd + 1
    match findFrom src delimiter (src.size + 1) bodyStart with
    | some k => some (.ok (src.slice bodyStart k, k + delimiter.length))
    | none => some (.error ⟨"dollar-quoted string", start⟩)

/-- The position after a number starting at `i`. -/
def readNumber (i : Nat) : Nat :=
  let i := if src.get? i == some '-' then i + 1 else i
  go src.size false i
where
  go : Nat → Bool → Nat → Nat
    | 0, _, i => i
    | fuel + 1, hasDot, i =>
      match src.get? i with
      | some c =>
        let next := src.get? (i + 1)
        if isAsciiDigit c then go fuel hasDot (i + 1)
        else if c == '.' && !hasDot && next.any isAsciiDigit then go fuel true (i + 1)
        else if (c == 'e' || c == 'E') &&
            next.any (fun n => isAsciiDigit n || n == '-' || n == '+') then go fuel hasDot (i + 2)
        else i
      | none => i

/-- The outcome of one step of the lexer. -/
inductive Step where
  | done
  | token (t : Spanned)
  | failed (e : LexError)
deriving Repr, Inhabited

/-- The next token at or after position `i`. -/
def nextToken : Nat → Nat → Step
  | 0, _ => .done
  | fuel + 1, i =>
    let i := skipWhile src isWhiteSpace src.size i
    let here (t : Token) (stop : Nat) : Step := .token ⟨t, i, stop⟩
    let fromRead (mk : String → Token) : Except LexError (String × Nat) → Step
      | .ok (s, j) => here (mk s) j
      | .error e => .failed e
    match src.get? i with
    | none => .done
    | some c =>
      let next := src.get? (i + 1)
      if c == '-' && next == some '-' then nextToken fuel (skipLineComment src src.size i)
      else if c == '-' && next.any isAsciiDigit then
        let j := readNumber src i
        here (.num (src.slice i j)) j
      else if c == '/' && next == some '*' then
        match skipBlockComment src i src.size 1 (i + 2) with
        | .ok j => nextToken fuel j
        | .error e => .failed e
      else if c == '(' then here .lparen (i + 1)
      else if c == ')' then here .rparen (i + 1)
      else if c == '[' then here .lbracket (i + 1)
      else if c == ']' then here .rbracket (i + 1)
      else if c == ',' then here .comma (i + 1)
      else if c == ';' then here .semicolon (i + 1)
      else if c == '.' && next.any isAsciiDigit then
        let j := readNumber src i
        here (.num (src.slice i j)) j
      else if c == '.' then here .dot (i + 1)
      else if c == ':' && next == some ':' then here .doubleColon (i + 2)
      else if c == '"' then
        fromRead .quotedIdent (readQuoted src '"' "quoted identifier" i src.size [] (i + 1))
      else if c == '\'' then fromRead .str (readQuoted src '\'' "string" i src.size [] (i + 1))
      else if (c == 'e' || c == 'E') && next == some '\'' then
        fromRead .str (readEscaped src i src.size [] (i + 2))
      else if c == '$' then
        match readDollarQuoted src i with
        | some r => fromRead .str r
        | none => here (.op '$') (i + 1)
      else if isAsciiDigit c then
        let j := readNumber src i
        here (.num (src.slice i j)) j
      else if isWordStart c then
        let j := skipWhile src isWordChar src.size i
        here (Token.ofWord (src.slice i j)) j
      else here (.op c) (i + 1)

/-- All tokens up to the end or the first lexing failure, with the failure. -/
def tokensFrom : Nat → Nat → List Spanned → List Spanned × Option LexError
  | 0, _, acc => (acc.reverse, none)
  | fuel + 1, i, acc =>
    match nextToken src (src.size + 1) i with
    | .done => (acc.reverse, none)
    | .failed e => (acc.reverse, some e)
    | .token t => tokensFrom fuel t.stop (t :: acc)

end Lexer

/-- Lex a text into tokens, stopping at the first unterminated construct. -/
def tokenize (src : SourceText) : List Spanned × Option LexError :=
  Lexer.tokensFrom src (src.size + 1) 0 []

end Sql

end Schemata
