import Schemata.Sql.Parser
import Schemata.Sql.Lower
import Schemata.Parse.Chunks

/-!
# Reading PostgreSQL DDL

The source is read in chunks of lines. Each chunk is lexed and cut into
statements at top-level semicolons; every complete statement is parsed,
lowered and absorbed. A statement that a syntax error stops is skipped with a
warning at the error's byte offset (or the statement's start).

A statement the chunk cuts off — it runs to the end of a chunk that is not
the end of the text, or an unterminated string or comment swallows it — is
left for the next window: the lines before its line are consumed, or, when
it starts on the chunk's first line, the driver is asked to retry with
another window. At the end of the text such a statement is reported as
unterminated.
-/

namespace Schemata

namespace Sql

/-- A statement's tokens and the character range it covers, its semicolon
included when it has one. -/
structure RawStatement where
  tokens : Array Spanned
  start : Nat
  stop : Nat
deriving Inhabited

/-- The complete statements of a chunk and where a cut-off one starts. -/
structure Split where
  statements : List RawStatement
  incompleteAt : Option Nat
deriving Inhabited

/-- Cut tokens into statements at semicolons; the tokens of the statement in
progress are kept reversed. -/
def splitAtSemicolons : List Spanned → List Spanned → List RawStatement → List RawStatement × List Spanned
  | [], current, done => (done.reverse, current.reverse)
  | t :: rest, current, done =>
    if t.token == .semicolon then
      match current.getLast? with
      | some first =>
        splitAtSemicolons rest [] (⟨current.reverse.toArray, first.start, t.stop⟩ :: done)
      | none => splitAtSemicolons rest [] done
    else splitAtSemicolons rest (t :: current) done

def splitStatements (src : SourceText) (atEnd : Bool) : Split :=
  let (tokens, lexError) := tokenize src
  let (statements, tail) := splitAtSemicolons tokens [] []
  match lexError, tail.head? with
  | some e, some first => ⟨statements, some (min first.start e.start)⟩
  | some e, none => ⟨statements, some e.start⟩
  | none, some first =>
    if !atEnd then ⟨statements, some first.start⟩
    else
      let stop := (tail.getLast?.map (·.stop)).getD first.start
      ⟨statements ++ [⟨tail.toArray, first.start, stop⟩], none⟩
  | none, none => ⟨statements, none⟩

def unterminated (offset : Nat) : Problem :=
  .unexpectedToken "unterminated statement at end of input" (some offset)

/-- Parse, lower and absorb complete statements of a chunk at byte `offset`. -/
def convert (src : SourceText) (offset : Nat) (st : ConvertState) (statements : List RawStatement) :
    ConvertState :=
  statements.foldl (fun st raw =>
    let fragments := match parseStatement raw.tokens src with
      | .ok s => lower s
      | .error e =>
        let at_ := offset + e.offset?.getD (src.byteAt raw.start)
        [.warning (.unexpectedToken e.message (some at_))]
    fragments.foldl ConvertState.absorb st) st

/-- The last line feed before character position `i`. -/
def lastNewlineBefore (src : SourceText) (i : Nat) : Option Nat :=
  ((List.range i).reverse).find? fun j => src.get? j == some '\n'

/-- Read one chunk starting at byte `offset` of the text. -/
def readChunk (st : ConvertState) (chunk : String) (offset : Nat) (atEnd : Bool) :
    ConvertState × ChunkOutcome :=
  let src := SourceText.ofString chunk
  let split := splitStatements src atEnd
  match split.incompleteAt with
  | none => (convert src offset st split.statements, .complete)
  | some incomplete =>
    match lastNewlineBefore src incomplete with
    | some newline =>
      let complete := split.statements.filter (·.stop < newline + 1)
      (convert src offset st complete, .readUpTo (src.byteAt newline))
    | none =>
      if atEnd then
        let st := convert src offset st split.statements
        ({ st with problems := st.problems ++ [unterminated (offset + src.byteAt incomplete)] }, .complete)
      else
        (st, .retryAt (src.byteAt incomplete) [unterminated (offset + src.byteAt incomplete)])

/-- Run the PostgreSQL reader over `input` in chunks of `chunkSize` lines: the
converter's final state and the driver's fatal problems, or `none` where a
window end overflows a machine word and the program panics. -/
def runPostgres (input : String) (chunkSize : Nat) : Option (ConvertState × List Problem) :=
  let total := input.utf8ByteSize
  processInChunks
    (fun st chunk offset => readChunk st chunk offset (offset + chunk.utf8ByteSize ≥ total))
    input chunkSize ({} : ConvertState)

/-- Read PostgreSQL DDL in chunks of `chunkSize` lines. Where the run panics the
reading is the default one, the value a panic stands for in Lean. -/
def parsePostgres (input : String) (chunkSize : Nat) : Reading :=
  match runPostgres input chunkSize with
  | some (st, fatal) => { value := st.schema, problems := st.problems ++ fatal }
  | none => default

end Sql

end Schemata
