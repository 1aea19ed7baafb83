import Schemata.Text.Source
import Schemata.Text.Escape
import Schemata.Text.Unicode.WhiteSpace
import Schemata.Text.Unicode.Alphabetic
import Schemata.Text.Unicode.Numeric

/-!
# The Prisma schema lexer

A Prisma schema is made of words, double-quoted strings, numbers and a few
punctuation marks. Blanks and `//` comments are skipped; a `///` comment is a
documentation token of its own, attached by the parser to the model, enum or
field that follows it. A single `/` is an error, as is any character that
starts no token.

Numbers are read loosely: an optional `-`, a digit, then any run of digits and
dots, so `1.2.3` is one number token; whether it denotes a value is decided
when a default is lowered.
-/

namespace Schemata

namespace Prisma

open Unicode

/-- A token of a Prisma schema. -/
inductive Token where
  | ident (s : String)
  | str (s : String)
  | num (s : String)
  /-- The text of a `///` comment line, trimmed. -/
  | docComment (s : String)
  | lbrace
  | rbrace
  | lparen
  | rparen
  | lbracket
  | rbracket
  | comma
  | colon
  | eq
  /-- `@`, which opens a field attribute. -/
  | atSign
  /-- `@@`, which opens a block attribute. -/
  | doubleAt
  | dot
  | question
  | eof
deriving Repr, DecidableEq, Inhabited

namespace Token

/-- The token as error messages show it: its variant name, with a payload
quoted as a string. -/
def describe : Token → String
  | ident s => "Ident(" ++ Escape.quoted s ++ ")"
  | str s => "Str(" ++ Escape.quoted s ++ ")"
  | num s => "Num(" ++ Escape.quoted s ++ ")"
  | docComment s => "DocComment(" ++ Escape.quoted s ++ ")"
  | lbrace => "LBrace"
  | rbrace => "RBrace"
  | lparen => "LParen"
  | rparen => "RParen"
  | lbracket => "LBracket"
  | rbracket => "RBracket"
  | comma => "Comma"
  | colon => "Colon"
  | eq => "Eq"
  | atSign => "At"
  | doubleAt => "AtAt"
  | dot => "Dot"
  | question => "Question"
  | eof => "Eof"

/-- Whether the token is the word `w`. -/
def isIdent (t : Token) (w : String) : Bool :=
  match t with
  | ident s => s == w
  | _ => false

end Token

/-- A token and the byte offset it starts at. -/
structure Spanned where
  token : Token
  offset : Nat
deriving Repr, Inhabited

/-- Why lexing failed; each carries the byte offset it happened at. -/
inductive LexError where
  | unexpectedChar (c : Char) (offset : Nat)
  /-- The offset of the opening quote. -/
  | unterminatedString (offset : Nat)
deriving Repr, DecidableEq, Inhabited

namespace LexError

def message : LexError → String
  | .unexpectedChar c o =>
    "Unexpected character " ++ Escape.quotedChar c ++ " at byte " ++ toString o
  | .unterminatedString o => "Unterminated string starting at byte " ++ toString o

def offset : LexError → Nat
  | .unexpectedChar _ o | .unterminatedString o => o

end LexError

def isAsciiDigit (c : Char) : Bool := '0' ≤ c && c ≤ '9'

def isWordStart (c : Char) : Bool := isAlphabetic c || c == '_'

def isWordChar (c : Char) : Bool := isAlphabetic c || isNumeric c || c == '_'

def isNumberChar (c : Char) : Bool := isAsciiDigit c || c == '.'

namespace Lexer

variable (src : SourceText)

/-- The first position at or after `i` whose character fails `p`. -/
def skipWhile (p : Char → Bool) : Nat → Nat → Nat
  | 0, i => i
  | fuel + 1, i =>
    match src.get? i with
    | some c => if p c then skipWhile p fuel (i + 1) else i
    | none => i

/-- The body of a string whose opening quote at `start` is already consumed;
returns the body and the position after the closing quote. `\n`, `\t` and `\r`
stand for their control characters, a backslash before any other character
keeps that character. -/
def readString (start : Nat) : Nat → List Char → Nat → Except LexError (String × Nat)
  | 0, _, _ => .error (.unterminatedString (src.byteAt start))
  | fuel + 1, acc, i =>
    match src.get? i with
    | none => .error (.unterminatedString (src.byteAt start))
    | some '"' => .ok (String.ofList acc.reverse, i + 1)
    | some '\\' =>
      match src.get? (i + 1) with
      | none => .error (.unterminatedString (src.byteAt start))
      | some e =>
        let c := if e == 'n' then '\n' else if e == 't' then '\t' else if e == 'r' then '\r' else e
        readString start fuel (c :: acc) (i + 2)
    | some c => readString start fuel (c :: acc) (i + 1)

/-- Skip blanks and plain comments from `i`. Returns the documentation token
met first, if any, and the position reached. -/
def skipTrivia : Nat → Nat → Except LexError (Option Spanned × Nat)
  | 0, i => .ok (none, i)
  | fuel + 1, i =>
    let i := skipWhile src isWhiteSpace src.size i
    match src.get? i with
    | some '/' =>
      if src.get? (i + 1) != some '/' then .error (.unexpectedChar '/' (src.byteAt i))
      else
        let stop := skipWhile src (· != '\n') src.size i
        if src.get? (i + 2) == some '/' then
          .ok (some ⟨.docComment (trim (src.slice (i + 3) stop)), src.byteAt i⟩, stop)
        else skipTrivia fuel stop
    | _ => .ok (none, i)

/-- The token starting at position `i`, blanks already skipped, and the
position after it; `none` at the end of the text. -/
def tokenAt (i : Nat) : Option (Except LexError (Token × Nat)) :=
  match src.get? i with
  | none => none
  | some c =>
    let simple (t : Token) := some (.ok (t, i + 1))
    let next := src.get? (i + 1)
    match c with
    | '{' => simple .lbrace
    | '}' => simple .rbrace
    | '(' => simple .lparen
    | ')' => simple .rparen
    | '[' => simple .lbracket
    | ']' => simple .rbracket
    | ',' => simple .comma
    | ':' => simple .colon
    | '=' => simple .eq
    | '.' => simple .dot
    | '?' => simple .question
    | '@' => if next == some '@' then some (.ok (.doubleAt, i + 2)) else simple .atSign
    | '"' => some ((readString src i src.size [] (i + 1)).map fun (s, j) => (.str s, j))
    | _ =>
      if (c == '-' && next.any isAsciiDigit) || isAsciiDigit c then
        let j := skipWhile src isNumberChar src.size (i + 1)
        some (.ok (.num (src.slice i j), j))
      else if isWordStart c then
        let j := skipWhile src isWordChar src.size (i + 1)
        some (.ok (.ident (src.slice i j), j))
      else some (.error (.unexpectedChar c (src.byteAt i)))

/-- All tokens from position `i`, ending with the end token. -/
def tokensFrom : Nat → Nat → List Spanned → Except LexError (List Spanned)
  | 0, i, acc => .ok (⟨.eof, src.byteAt i⟩ :: acc).reverse
  | fuel + 1, i, acc => do
    let (doc, i) ← skipTrivia src src.size i
    match doc with
    | some d => tokensFrom fuel i (d :: acc)
    | none =>
      match tokenAt src i with
      | none => .ok (⟨.eof, src.byteAt i⟩ :: acc).reverse
      | some (.error e) => .error e
      | some (.ok (t, j)) => tokensFrom fuel j (⟨t, src.byteAt i⟩ :: acc)

end Lexer

/-- Lex a Prisma schema; the tokens end with the end token. -/
def tokenize (text : String) : Except LexError (Array Spanned) :=
  let src := SourceText.ofString text
  (Lexer.tokensFrom src (src.size + 1) 0 []).map List.toArray

end Prisma

end Schemata
