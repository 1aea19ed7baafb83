import Mathlib
import Schemata.Proofs.FatalProblems

/-!
# The statements a PostgreSQL reading absorbs

`parsePostgres` hands the chunk driver a reader that parses the complete statements of a chunk,
lowers each one and absorbs the fragments into the schema under construction. Windows are cut
at different lines for different window sizes, and a window may be offered again after a
retry; still, the state a reading ends with is the fold of `ConvertState.absorb` over the
fragments of one list: the statements taken from the windows the driver offered, in order,
each parsed or replaced by the warning that stops it (`statementsRead`,
`processInChunks_parsePostgres`).

A property of the schema that absorbing one fragment keeps, under a condition on that
fragment and the state it meets, is therefore a property of every reading whose statements meet
the condition one after another. The module also splits absorbing a foreign key into the
constraint and the relationship it stores (`foreignKeyParts?`), which such conditions name.
-/

namespace Schemata

section Recording

variable {σ : Type} (reader : σ → String → Nat → σ × ChunkOutcome)

/-- The state a recorded reading ends with is the reader folded over the calls in its log. -/
lemma processInChunks_recording_fold (input : String) (chunkSize : Nat) (init : σ) :
    ∀ r, processInChunks (recording reader) input chunkSize ([], init) = some r →
      r.1.2 = r.1.1.foldl (fun st call => (reader st call.chunk call.offset).1) init :=
  processInChunks_invariant
    (fun s : List ChunkCall × σ => s.2 = s.1.foldl (fun st call => (reader st call.chunk call.offset).1) init)
    (fun s chunk offset holds => by
      simp only [recording, List.foldl_append, List.foldl_cons, List.foldl_nil, ← holds])
    input chunkSize ([], init) rfl

end Recording

namespace Sql

/-! ## One chunk -/

/-- A complete statement of a chunk as the reader takes it: parsed, or the warning that a
syntax error stops it, at the error's byte offset or else the statement's start. -/
def readStatement (src : SourceText) (offset : Nat) (raw : RawStatement) : Except Problem Statement :=
  (parseStatement raw.tokens src).mapError fun e =>
    .unexpectedToken e.message (some (offset + e.offset?.getD (src.byteAt raw.start)))

/-- The fragments a statement taken by the reader brings: its lowering, or its warning. -/
def fragmentsOf : Except Problem Statement → List Fragment
  | .ok s => lower s
  | .error p => [.warning p]

/-- The statements the reader takes from a chunk at byte `offset`: the complete ones it
converts, and, at the end of the text, the warning for a statement left unterminated. -/
def chunkStatements (chunk : String) (offset : Nat) (atEnd : Bool) : List (Except Problem Statement) :=
  let src := SourceText.ofString chunk
  let split := splitStatements src atEnd
  match split.incompleteAt with
  | none => split.statements.map (readStatement src offset)
  | some incomplete =>
    match lastNewlineBefore src incomplete with
    | some newline => (split.statements.filter (·.stop < newline + 1)).map (readStatement src offset)
    | none =>
      if atEnd then
        split.statements.map (readStatement src offset) ++
          [.error (unterminated (offset + src.byteAt incomplete))]
      else []

lemma convert_eq_absorb (src : SourceText) (offset : Nat) (st : ConvertState)
    (statements : List RawStatement) :
    convert src offset st statements =
      ((statements.map (readStatement src offset)).flatMap fragmentsOf).foldl ConvertState.absorb st := by
  induction statements generalizing st with
  | nil => rfl
  | cons raw rest ih =>
    rw [List.map_cons, List.flatMap_cons, List.foldl_append, ← ih]
    simp only [convert, List.foldl_cons]
    congr 1
    -- the statement's fragments, or its warning
    unfold readStatement
    cases parseStatement raw.tokens src <;> rfl

/-- What one read of a chunk does to the state: absorb the fragments of the statements it
takes. -/
lemma readChunk_fst (st : ConvertState) (chunk : String) (offset : Nat) (atEnd : Bool) :
    (readChunk st chunk offset atEnd).1 =
      ((chunkStatements chunk offset atEnd).flatMap fragmentsOf).foldl ConvertState.absorb st := by
  unfold readChunk chunkStatements
  dsimp only
  cases (splitStatements (SourceText.ofString chunk) atEnd).incompleteAt with
  | none => exact convert_eq_absorb _ _ _ _
  | some incomplete =>
    dsimp only
    cases lastNewlineBefore (SourceText.ofString chunk) incomplete with
    | some newline => exact convert_eq_absorb _ _ _ _
    | none =>
      cases atEnd with
      | true =>
        simp only [if_true, List.flatMap_append, List.foldl_append, ← convert_eq_absorb]
        rfl
      | false => rfl

/-! ## A whole reading -/

/-- The statements a reading of `input` in windows of `chunkSize` lines takes, in order: those
the reader took from every window the driver offered; none when the reading panics. -/
def statementsRead (input : String) (chunkSize : Nat) : List (Except Problem Statement) :=
  let total := input.utf8ByteSize
  let calls := ((processInChunks
      (recording fun st chunk offset => readChunk st chunk offset (offset + chunk.utf8ByteSize ≥ total))
      input chunkSize ([], ({} : ConvertState))).map (·.1.1)).getD []
  calls.flatMap fun call =>
    chunkStatements call.chunk call.offset (call.offset + call.chunk.utf8ByteSize ≥ total)

lemma foldl_readChunk (total : Nat) (calls : List ChunkCall) (st : ConvertState) :
    calls.foldl (fun st call =>
        (readChunk st call.chunk call.offset (call.offset + call.chunk.utf8ByteSize ≥ total)).1) st =
      ((calls.flatMap fun call =>
          chunkStatements call.chunk call.offset (call.offset + call.chunk.utf8ByteSize ≥ total)).flatMap
        fragmentsOf).foldl ConvertState.absorb st := by
  induction calls generalizing st with
  | nil => rfl
  | cons call rest ih =>
    rw [List.foldl_cons, ih, readChunk_fst, List.flatMap_cons, List.flatMap_append, List.foldl_append]

/-- **A reading absorbs the statements it reads.** For every text and window size, the state a
PostgreSQL reading that returns ends with is the fold of `absorb` over the fragments of
`statementsRead`. -/
theorem processInChunks_parsePostgres (input : String) (chunkSize : Nat) :
    ∀ r, runPostgres input chunkSize = some r →
      r.1 = ((statementsRead input chunkSize).flatMap fragmentsOf).foldl ConvertState.absorb {} := by
  intro r ran
  let reader := fun (st : ConvertState) chunk offset =>
    readChunk st chunk offset (offset + chunk.utf8ByteSize ≥ input.utf8ByteSize)
  have plain := processInChunks_recording_state reader input chunkSize ([], {})
  change processInChunks reader input chunkSize {} = some r at ran
  unfold statementsRead
  dsimp only
  cases recorded : processInChunks (recording reader) input chunkSize ([], {}) with
  | none =>
    -- a recorded reading panics where the reading does
    rw [recorded, ran] at plain
    cases plain
  | some q =>
    rw [recorded, ran] at plain
    obtain rfl := Option.some.inj plain
    exact (processInChunks_recording_fold reader input chunkSize {} q recorded).trans
      (foldl_readChunk _ q.1.1 {})

/-- The schema a reading gives is the one its statements build; a reading that panics reads no
statement and gives the empty schema. -/
lemma parsePostgres_value (input : String) (chunkSize : Nat) :
    (parsePostgres input chunkSize).value =
      (((statementsRead input chunkSize).flatMap fragmentsOf).foldl ConvertState.absorb {}).schema := by
  unfold parsePostgres
  cases ran : runPostgres input chunkSize with
  | some r => rw [← processInChunks_parsePostgres input chunkSize r ran]
  | none =>
    have none_read : statementsRead input chunkSize = [] := by
      have plain := processInChunks_recording_state (fun (st : ConvertState) chunk offset =>
          readChunk st chunk offset (offset + chunk.utf8ByteSize ≥ input.utf8ByteSize))
        input chunkSize ([], {})
      unfold runPostgres at ran
      rw [ran, Option.map_eq_none_iff] at plain
      unfold statementsRead
      dsimp only
      rw [plain]
      rfl
    rw [none_read]
    rfl

/-! ## Foreign keys -/

namespace ConvertState

/-- The constraint and the relationship that absorbing `fk` into `table` stores, when the
foreign key has a first column and a first target column. -/
def foreignKeyParts? (st : ConvertState) (table : String) (fk : PendingForeignKey) :
    Option (Constraint × Relationship) :=
  match fk.columns.head?, (st.targetColumnsOf fk).head? with
  | some column, some targetColumn =>
    some (.foreignKey (fk.name.getD (relationshipName fk.target.table targetColumn table column))
        fk.columns fk.target.table (st.targetColumnsOf fk) fk.target.onUpdate fk.target.onDelete,
      { Relationship.new fk.target.table targetColumn table column with
        onUpdate := fk.target.onUpdate, onDelete := fk.target.onDelete })
  | _, _ => none

/-- Absorbing a foreign key leaves the schema as it is, or stores its constraint in its
existing table together with its relationship. -/
lemma schema_absorbForeignKey (st : ConvertState) (table : String) (fk : PendingForeignKey) :
    (st.absorbForeignKey table fk).schema = st.schema ∨
      ∃ c r, st.foreignKeyParts? table fk = some (c, r) ∧ st.schema.tables.contains table = true ∧
        (st.absorbForeignKey table fk).schema =
          (st.schema.modifyTable table (·.addConstraint c)).addRelationship r := by
  rw [absorbForeignKey_eq]
  unfold foreignKeyParts?
  cases fk.columns.head? with
  | none => exact .inl rfl
  | some column =>
    cases (st.targetColumnsOf fk).head? with
    | none => exact .inl rfl
    | some targetColumn =>
      dsimp only
      split
      · exact .inr ⟨_, _, rfl, ‹_›, rfl⟩
      · exact .inl rfl

end ConvertState

end Sql

end Schemata
