import Schemata.Text.Source
import Schemata.Text.Escape
import Schemata.Text.Unicode.WhiteSpace
import Schemata.Text.Unicode.Alphabetic
import Schemata.Text.Unicode.Numeric
import Schemata.Decimal.Parse
import Schemata.Decimal.Layout

/-!
# The `schema.rb` lexer

`schema.rb` files are written in a small subset of Ruby. Line feeds are
tokens of their own; other blanks, `#` comments and backslash line
continuations are skipped. A word followed by a single `:` is a label
(`null:`), a `:` followed by a word or a quoted string is a symbol, and words
may end in `?` or `!`. Strings are single- or double-quoted with backslash
escapes; numbers may contain `_` separators and at most one fraction.

Lexing stops at the first unterminated string or invalid number; the tokens
before it are kept and followed by an end token.
-/

namespace Schemata

namespace Rails

open Unicode

/-- A token of a `schema.rb` file. -/
inductive Token where
  | ident (s : String)
  /-- `name:` in keyword arguments. -/
  | label (s : String)
  /-- `:name` or `:"name"`. -/
  | symbol (s : String)
  | str (s : String)
  | int (n : Int)
  | float (x : Binary64)
  | lbrace
  | rbrace
  | lparen
  | rparen
  | lbracket
  | rbracket
  | comma
  | dot
  /-- `::` -/
  | scope
  /-- `->` -/
  | arrow
  /-- `=>` -/
  | fatArrow
  | pipe
  | other (c : Char)
  | newline
  | eof
deriving Repr, DecidableEq, Inhabited

namespace Token

/-- Whether the token is the word `w`. -/
def isIdent (t : Token) (w : String) : Bool :=
  match t with
  | ident s => s == w
  | _ => false

/-- The token as error messages show it: its variant name with its payload
quoted as a string, character or number. -/
def describe : Token → String
  | ident s => "Ident(" ++ Escape.quoted s ++ ")"
  | label s => "Label(" ++ Escape.quoted s ++ ")"
  | symbol s => "Symbol(" ++ Escape.quoted s ++ ")"
  | str s => "Str(" ++ Escape.quoted s ++ ")"
  | int n => "Int(" ++ toString n ++ ")"
  | float x => "Float(" ++ FloatStyle.debug.render x ++ ")"
  | lbrace => "LBrace"
  | rbrace => "RBrace"
  | lparen => "LParen"
  | rparen => "RParen"
  | lbracket => "LBracket"
  | rbracket => "RBracket"
  | comma => "Comma"
  | dot => "Dot"
  | scope => "Scope"
  | arrow => "Arrow"
  | fatArrow => "FatArrow"
  | pipe => "Pipe"
  | other c => "Other(" ++ Escape.quotedChar c ++ ")"
  | newline => "Newline"
  | eof => "Eof"

end Token

/-- A token and the byte offset it starts at. -/
structure Spanned where
  token : Token
  offset : Nat
deriving Repr, Inhabited

/-- Why lexing stopped. -/
inductive LexError where
  /-- The byte offset where the string (or quoted symbol) starts. -/
  | unterminatedString (offset : Nat)
  | invalidNumber (text : String)
deriving Repr, DecidableEq, Inhabited

def LexError.message : LexError → String
  | .unterminatedString o => "Unterminated string starting at byte " ++ toString o
  | .invalidNumber s => "Invalid number: " ++ s

def isAsciiDigit (c : Char) : Bool := '0' ≤ c && c ≤ '9'

def isWordStart (c : Char) : Bool := isAlphabetic c || c == '_'

def isWordChar (c : Char) : Bool := isAlphabetic c || isNumeric c || c == '_'

namespace Lexer

variable (src : SourceText)

/-- Skip blanks other than line feeds, comments and line continuations. -/
def skipBlanks : Nat → Nat → Nat
  | 0, i => i
  | fuel + 1, i =>
    match src.get? i with
    | some '\n' => i
    | some '\\' =>
      let i := i + 1
      let i := if src.get? i == some '\r' then i + 1 else i
      let i := if src.get? i == some '\n' then i + 1 else i
      skipBlanks fuel i
    | some '#' =>
      let rec toLineEnd : Nat → Nat → Nat
        | 0, j => j
        | f + 1, j => match src.get? j with
          | some '\n' | none => j
          | some _ => toLineEnd f (j + 1)
      skipBlanks fuel (toLineEnd src.size i)
    | some c => if isWhiteSpace c then skipBlanks fuel (i + 1) else i
    | none => i

/-- The end of a word starting at `i`, with an optional `?` or `!`. -/
def wordEnd (i : Nat) : Nat :=
  let rec go : Nat → Nat → Nat
    | 0, j => j
    | f + 1, j => match src.get? j with
      | some c => if isWordChar c then go f (j + 1) else j
      | none => j
  let j := go src.size i
  match src.get? j with
  | some '?' | some '!' => j + 1
  | _ => j

/-- The body of a string whose opening quote was at `start` (character
position) and is already consumed; returns the body and the position after
the closing quote. -/
def readString (q : Char) (start : Nat) : Nat → List Char → Nat → Except LexError (String × Nat)
  | 0, acc, i => .ok (String.ofList acc.reverse, i)
  | fuel + 1, acc, i =>
    match src.get? i with
    | none => .error (.unterminatedString (src.byteAt start))
    | some c =>
      if c == q then .ok (String.ofList acc.reverse, i + 1)
      else if c == '\\' then
        match src.get? (i + 1) with
        | none => readString q start fuel acc (i + 1)
        | some e =>
          let add : List Char :=
            if e == 'n' && q == '"' then ['\n']
            else if e == 't' && q == '"' then ['\t']
            else if e == 'r' && q == '"' then ['\r']
            else if e == q || e == '\\' then [e]
            else if q == '\'' then [e, '\\']
            else [e]
          readString q start fuel (add ++ acc) (i + 2)
      else readString q start fuel (c :: acc) (i + 1)

/-- The digits of a number after its first character, `_` dropped. -/
def numberDigits : Nat → Bool → List Char → Nat → Bool × List Char × Nat
  | 0, isFloat, acc, i => (isFloat, acc, i)
  | fuel + 1, isFloat, acc, i =>
    match src.get? i with
    | some c =>
      if isAsciiDigit c then numberDigits fuel isFloat (c :: acc) (i + 1)
      else if c == '_' then numberDigits fuel isFloat acc (i + 1)
      else if c == '.' && !isFloat && (src.get? (i + 1)).any isAsciiDigit then
        numberDigits fuel true ('.' :: acc) (i + 1)
      else (isFloat, acc, i)
    | none => (isFloat, acc, i)

/-- A number whose first character `first` is already consumed. -/
def readNumber (first : Char) (i : Nat) : Except LexError (Token × Nat) :=
  let (isFloat, acc, j) := numberDigits src src.size false [first] i
  let text := String.ofList acc.reverse
  if isFloat then
    match parseFloat? text with
    | some x => .ok (.float x, j)
    | none => .error (.invalidNumber text)
  else
    match parseInt64? text with
    | some n => .ok (.int n, j)
    | none => .error (.invalidNumber text)

/-- The token starting at character position `i` (blanks already skipped). -/
def tokenAt (i : Nat) : Option (Except LexError (Token × Nat)) :=
  match src.get? i with
  | none => none
  | some c =>
    let next := src.get? (i + 1)
    let simple (t : Token) := some (.ok (t, i + 1))
    match c with
    | '\n' => simple .newline
    | '{' => simple .lbrace
    | '}' => simple .rbrace
    | '(' => simple .lparen
    | ')' => simple .rparen
    | '[' => simple .lbracket
    | ']' => simple .rbracket
    | ',' => simple .comma
    | '.' => simple .dot
    | '|' => simple .pipe
    | ':' =>
      match next with
      | some ':' => some (.ok (.scope, i + 2))
      | some q =>
        if q == '"' || q == '\'' then
          some ((readString src q i src.size [] (i + 2)).map fun (s, j) => (.symbol s, j))
        else if isWordStart q then
          let j := wordEnd src (i + 2)
          some (.ok (.symbol (src.slice (i + 1) j), j))
        else simple (.other ':')
      | none => simple (.other ':')
    | '-' =>
      if next == some '>' then some (.ok (.arrow, i + 2))
      else if next.any isAsciiDigit then some (readNumber src '-' (i + 1))
      else simple (.other '-')
    | '=' => if next == some '>' then some (.ok (.fatArrow, i + 2)) else simple (.other '=')
    | _ =>
      if c == '"' || c == '\'' then
        some ((readString src c i src.size [] (i + 1)).map fun (s, j) => (.str s, j))
      else if isAsciiDigit c then some (readNumber src c (i + 1))
      else if isWordStart c then
        let j := wordEnd src (i + 1)
        let name := src.slice i j
        if src.get? j == some ':' && src.get? (j + 1) != some ':' then some (.ok (.label name, j + 1))
        else some (.ok (.ident name, j))
      else simple (.other c)

/-- All tokens from position `i`, ending with an end token, and the error
that stopped lexing, if any. -/
def tokensFrom : Nat → Nat → List Spanned → List Spanned × Option LexError
  | 0, i, acc => ((⟨.eof, src.byteAt i⟩ :: acc).reverse, none)
  | fuel + 1, i, acc =>
    let i := skipBlanks src src.size i
    match tokenAt src i with
    | none => ((⟨.eof, src.byteAt i⟩ :: acc).reverse, none)
    | some (.ok (t, j)) => tokensFrom fuel j (⟨t, src.byteAt i⟩ :: acc)
    | some (.error e) => ((⟨.eof, src.byteAt (failurePosition i)⟩ :: acc).reverse, some e)
where
  /-- Where lexing stands after a failed token at `i`: a string runs to the
  end, a number stops after its digits. -/
  failurePosition (i : Nat) : Nat :=
    match src.get? i with
    | some '-' | some '0' | some '1' | some '2' | some '3' | some '4' | some '5' | some '6'
    | some '7' | some '8' | some '9' =>
      (numberDigits src src.size false [] (i + 1)).2.2
    | _ => src.size

end Lexer

/-- Lex a `schema.rb` text. -/
def tokenize (text : String) : List Spanned × Option LexError :=
  let src := SourceText.ofString text
  Lexer.tokensFrom src (src.size + 1) 0 []

end Rails

end Schemata
