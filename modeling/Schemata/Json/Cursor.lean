import Schemata.Json.Fault

/-!
# Reading positions in JSON text

A `Cursor` is the unread rest of a JSON text together with the line (from 1)
and column (bytes from the start of the line) where it begins. A fault is
reported either *here*, at the cursor, or *at the next character*, one byte
further on (on the next line, column 0, when that character is a line feed):
a character that breaks the grammar is read one byte at a time, so only its
first byte counts, whatever its length.

A reading step yields a value and the cursor after it, or a fault and the
cursor where reading stopped. A fault without a place takes the place of the
innermost list or object reading that sees it, after that reading has closed.
-/

namespace Schemata

namespace Json

/-- The unread rest of a JSON text and where it begins. -/
structure Cursor where
  rest : List Char
  line : Nat
  column : Nat
deriving Repr, Inhabited

/-- The outcome of one reading step. -/
abbrev Outcome (α : Type) := Except (ReadError × Cursor) (α × Cursor)

namespace Cursor

/-- A cursor at the start of a text. -/
def start (s : String) : Cursor := ⟨s.toList, 1, 0⟩

/-- The place of the cursor. -/
def here (c : Cursor) : Nat × Nat := (c.line, c.column)

/-- The place one byte further on. -/
def nextPlace (c : Cursor) : Nat × Nat :=
  match c.rest with
  | [] => c.here
  | '\n' :: _ => (c.line + 1, 0)
  | _ :: _ => (c.line, c.column + 1)

def peek? (c : Cursor) : Option Char := c.rest.head?

/-- Move past one character. -/
def bump (c : Cursor) : Cursor :=
  match c.rest with
  | [] => c
  | ch :: rest => if ch == '\n' then ⟨rest, c.line + 1, 0⟩ else ⟨rest, c.line, c.column + ch.utf8Size⟩

/-- Skip blanks (space, tab, line feed, carriage return) from a list. -/
def skipBlankFrom : List Char → Nat → Nat → Cursor
  | [], line, col => ⟨[], line, col⟩
  | ch :: rest, line, col =>
    if ch == ' ' || ch == '\t' || ch == '\r' then skipBlankFrom rest line (col + 1)
    else if ch == '\n' then skipBlankFrom rest (line + 1) 0
    else ⟨ch :: rest, line, col⟩

/-- Skip blanks. -/
def skipBlank (c : Cursor) : Cursor := skipBlankFrom c.rest c.line c.column

/-- The place `n` bytes further on: a line feed starts a new line, and the
count may end inside a character, as a reader of bytes would stop there. -/
def placeAfter (c : Cursor) (n : Nat) : Nat × Nat :=
  go c.rest n c.line c.column
where
  go : List Char → Nat → Nat → Nat → Nat × Nat
    | [], _, line, col => (line, col)
    | _, 0, line, col => (line, col)
    | ch :: rest, n + 1, line, col =>
      if ch == '\n' then go rest n (line + 1) 0
      else
        let used := min (n + 1) ch.utf8Size
        go rest (n + 1 - used) line (col + used)

/-- Fail with a syntax fault at a given place. -/
def failAt (c : Cursor) (place : Nat × Nat) (f : SyntaxFault) : Outcome α :=
  .error (⟨.malformed f, some place⟩, c)

/-- Fail with a syntax fault at the cursor. -/
def failHere (c : Cursor) (f : SyntaxFault) : Outcome α := .error (⟨.malformed f, some c.here⟩, c)

/-- Fail with a syntax fault at the next character. -/
def failNext (c : Cursor) (f : SyntaxFault) : Outcome α := .error (⟨.malformed f, some c.nextPlace⟩, c)

/-- Fail with a decoding fault that has no place yet. -/
def failDecode (c : Cursor) (f : DecodeFault) : Outcome α := .error (⟨.decode f, none⟩, c)

end Cursor

/-- Give a fault without a place the place where reading stopped. -/
def settle : Outcome α → Outcome α
  | .error (e, c) =>
    match e.position with
    | some _ => .error (e, c)
    | none => .error ({ e with position := some c.here }, c)
  | ok => ok

/-- Close a list or object after reading its contents: the closing step runs
even when reading the contents failed, and a fault of the contents wins. -/
def closeWith (ret : Outcome α) (close : Cursor → Outcome Unit) : Outcome α :=
  match ret with
  | .ok (v, c) =>
    match close c with
    | .ok (_, c') => .ok (v, c')
    | .error e => .error e
  | .error (e, c) =>
    match close c with
    | .ok (_, c') => .error (e, c')
    | .error (_, c') => .error (e, c')

/-- Read the colon between an object key and its value. -/
def objectColon (c : Cursor) : Outcome Unit :=
  let c := c.skipBlank
  match c.peek? with
  | some ':' => .ok ((), c.bump)
  | some _ => c.failNext .expectedColon
  | none => c.failNext .eofInObject

/-- Close an object. -/
def endObject (c : Cursor) : Outcome Unit :=
  let c := c.skipBlank
  match c.peek? with
  | some '}' => .ok ((), c.bump)
  | some ',' => c.failNext .trailingComma
  | some _ => c.failNext .trailingCharacters
  | none => c.failNext .eofInObject

/-- Close a list. -/
def endList (c : Cursor) : Outcome Unit :=
  let c := c.skipBlank
  match c.peek? with
  | some ']' => .ok ((), c.bump)
  | some ',' =>
    let c := c.bump.skipBlank
    match c.peek? with
    | some ']' => c.failNext .trailingComma
    | _ => c.failNext .trailingCharacters
  | some _ => c.failNext .trailingCharacters
  | none => c.failNext .eofInList

/-- Read the rest of a literal word (`ull` after `n`, and so on). -/
def expectWord : List Char → Cursor → Outcome Unit
  | [], c => .ok ((), c)
  | w :: ws, c =>
    match c.peek? with
    | none => c.failHere .eofInValue
    | some ch => if ch == w then expectWord ws c.bump else c.failNext .expectedIdent

/-- Whether a character is an ASCII digit. -/
def isDigitChar (c : Char) : Bool := '0' ≤ c && c ≤ '9'

/-- The start of the next object key, if any: `first` says whether no member
has been read yet. -/
def nextKeyStart (first : Bool) (c : Cursor) : Outcome Bool :=
  let c := c.skipBlank
  let keyAt := fun (c : Cursor) =>
    match c.peek? with
    | some '"' => .ok (true, c)
    | some '}' => c.failNext .trailingComma
    | some _ => c.failNext .keyMustBeString
    | none => c.failNext .eofInValue
  match c.peek? with
  | some '}' => .ok (false, c)
  | some ',' => if first then keyAt c else keyAt c.bump.skipBlank
  | some _ => if first then keyAt c else c.failNext .expectedObjectCommaOrEnd
  | none => c.failNext .eofInObject

/-- Whether another list element starts at the cursor. -/
def nextElementStart (first : Bool) (c : Cursor) : Outcome Bool :=
  let c := c.skipBlank
  let elementAt := fun (c : Cursor) =>
    match c.peek? with
    | some ']' => c.failNext .trailingComma
    | some _ => .ok (true, c)
    | none => c.failNext .eofInValue
  match c.peek? with
  | some ']' => .ok (false, c)
  | some ',' => if first then elementAt c else elementAt c.bump.skipBlank
  | some _ => if first then elementAt c else c.failNext .expectedListCommaOrEnd
  | none => c.failNext .eofInList

end Json

end Schemata
