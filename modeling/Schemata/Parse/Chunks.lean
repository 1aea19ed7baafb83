import Schemata.Parse.Problem
import Schemata.Text.Source

/-!
# Reading a text in chunks of lines

A low-level reader that cannot resume inside a statement is fed a text a few
lines at a time. The text is cut at line feeds; a chunk is a window of
consecutive lines joined by line feeds, and the reader is also told the byte
offset of the chunk's first line.

The reader answers in one of three ways:
* it read the whole chunk;
* it read up to a byte offset of the chunk, and the line holding that
  offset is the last line consumed;
* it must retry at the same start with another window.

On a retry the window shrinks one line at a time down to one line; after
that it grows from the configured size one line at a time, up to twice that
size and not beyond the end of the text. When growing is exhausted the
reading ends with the reader's last problems and a fatal
`windowExhausted` naming the 1-based line where the window started. A read
offset that is not a character boundary of the chunk, or lies past its end,
ends the reading with a fatal `unexpectedCondition`.

Line numbers and window sizes are machine words. The end `start + size` of a
window, and the growth limit `2 * chunkSize` once a growing window still lies
inside the text, overflow at `wordSize`, and the program panics there: the
driver then gives `none`. With fewer lines than `wordSize - max chunkSize 1`
no window end overflows. The other sums stay below the number of lines or
bytes of the text and are not checked.
-/

namespace Schemata

/-- What the reader made of one chunk. -/
inductive ChunkOutcome where
  | complete
  | readUpTo (offset : Nat)
  | retryAt (offset : Nat) (problems : List Problem)
deriving Repr, Inhabited

/-- The character index of a byte offset of a text, if the offset is a
character boundary inside the text or its end. -/
def byteOffsetToCharIndex (text : String) (offset : Nat) : Option Nat :=
  go text.toList 0 0
where
  go : List Char → Nat → Nat → Option Nat
    | [], bytes, i => if bytes == offset then some i else none
    | c :: rest, bytes, i =>
      if bytes == offset then some i
      else if bytes > offset then none
      else go rest (bytes + utf8Size c) (i + 1)

/-- The 1-based line of the character at a character index, if the index is
inside the text. -/
def lineNumber (text : String) (index : Nat) : Option Nat :=
  go text.toList 0 1
where
  go : List Char → Nat → Nat → Option Nat
    | [], _, _ => none
    | c :: rest, i, line =>
      if i == index then some line else go rest (i + 1) (if c == '\n' then line + 1 else line)

/-- The number of lines a read offset consumes of a chunk of `window` lines. -/
def linesConsumed (chunk : String) (offset window : Nat) : Except (List Problem) Nat :=
  match byteOffsetToCharIndex chunk offset with
  | none =>
    .error [.unexpectedCondition ("read offset " ++ toString offset ++
      " is not a character boundary of the chunk")]
  | some index =>
    if index == chunk.length then .ok window
    else
      match lineNumber chunk index with
      | some line => .ok line
      | none =>
        .error [.unexpectedCondition ("character index " ++ toString index ++
          " is outside the chunk")]

/-- The lines of a text: its pieces between line feeds. -/
def textLines (text : String) : Array String :=
  ((text.toList.splitOn '\n').map String.ofList).toArray

/-- The chunk of lines `[start, stop)`. -/
def chunkOf (lines : Array String) (start stop : Nat) : String :=
  "\n".intercalate (lines.extract start stop).toList

/-- The byte length of lines `[start, stop)`, each with its line feed. -/
def linesBytes (lines : Array String) (start stop : Nat) : Nat :=
  (lines.extract start stop).foldl (fun n l => n + l.utf8ByteSize + 1) 0

/-- The number of values of a machine word (`usize` on a 64-bit target): window
arithmetic that reaches it overflows. -/
def wordSize : Nat := Nat.pow 2 64

/-- Whether the window is shrinking or growing. -/
inductive WindowPhase where
  | shrink
  | grow
deriving Repr, DecidableEq, Inhabited

section Driver

variable {σ : Type} (reader : σ → String → Nat → σ × ChunkOutcome)

/-- Find a window the reader accepts at line `start`, trying a window of `size`
lines first; the reader's state and the first unconsumed line, or the problems
that end the reading, or `none` where a window end overflows. A shrinking
window loses a line at each retry down to one line, then the window grows from
`chunkSize` lines; a growing window gains a line at each retry up to
`2 * chunkSize` lines and the end of the text. -/
def readAt (lines : Array String) (chunkSize start offset : Nat) (st : σ) (size : Nat)
    (phase : WindowPhase) : Option (σ × Except (List Problem) Nat) :=
  if start + size ≥ wordSize then none
  else
    let stop := min (start + size) lines.size
    let used := stop - start
    let chunk := chunkOf lines start stop
    let (st, outcome) := reader st chunk offset
    match outcome with
    | .complete => some (st, .ok stop)
    | .readUpTo read =>
      match linesConsumed chunk read used with
      | .ok n => some (st, .ok (start + n))
      | .error e => some (st, .error e)
    | .retryAt _ problems =>
      match phase with
      | .shrink =>
        if used ≤ 1 then readAt lines chunkSize start offset st chunkSize .grow
        else readAt lines chunkSize start offset st (used - 1) .shrink
      | .grow =>
        let next := used + 1
        -- the limit `2 * chunkSize` is computed only for a window inside the text
        if start + next ≤ lines.size ∧ chunkSize * 2 ≥ wordSize then none
        else if start + next > lines.size || next > chunkSize * 2 then
          some (st, .error (problems ++ [.windowExhausted (start + 1)]))
        else readAt lines chunkSize start offset st next .grow
termination_by
  -- every shrinking window comes before every growing one; a shrinking window
  -- loses a line, a growing one gains a line below `2 * chunkSize`
  match phase with
  | .shrink => 2 * chunkSize + 2 + min size (lines.size - start)
  | .grow => 2 * chunkSize + 1 - min size (lines.size - start)
decreasing_by
  all_goals simp +zetaDelta only [Bool.or_eq_true, decide_eq_true_eq, not_or, Nat.not_lt] at *
  all_goals omega

/-- Read from line `cursor`, at byte `offset` of the text, on; `none` where a
window end overflows. -/
def readFrom (lines : Array String) (chunkSize : Nat) (st : σ) (cursor offset : Nat) :
    Option (σ × List Problem) :=
  if cursor < lines.size then
    match readAt reader lines chunkSize cursor offset st chunkSize .shrink with
    | some (st, .ok next) =>
      let next := max next (cursor + 1)
      readFrom lines chunkSize st next (offset + linesBytes lines cursor next)
    | some (st, .error problems) => some (st, problems)
    | none => none
  else some (st, [])
termination_by lines.size - cursor

/-- Feed `input` to the reader in windows of `chunkSize` lines (at least one).
Returns the reader's final state and the problems of the first failure that
could not be recovered from, or `none` where a window end overflows a machine
word and the program panics. -/
def processInChunks (input : String) (chunkSize : Nat) (init : σ) : Option (σ × List Problem) :=
  if input.isEmpty then some (init, [])
  else
    let lines := textLines input
    readFrom reader lines (max chunkSize 1) init 0 0

end Driver

end Schemata
