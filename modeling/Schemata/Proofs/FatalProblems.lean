import Mathlib
import Schemata.Proofs.ChunkWindows
import Schemata.Sql.Front

/-!
# The only fatal outcome of reading SQL is window exhaustion

Two kinds of problem end a reading: an inconsistency of the chunk driver (a read offset it
cannot place in the chunk) and a statement that no window holds. This module proves that
reading PostgreSQL DDL only ever meets the second, at most once, and as its last problem
(`parsePostgres_fatal_only_exhaustion`).

The argument has three parts.

* The SQL reader stops a partial read at a line feed of the chunk, so the driver always
  places the read offset, and it consumes at least one line and fewer than the chunk holds
  (`readChunk_readUpTo`, `linesConsumed_at_newline`).
* A driver whose reader is `CalmReader` (its partial reads are placed, its retries report no
  fatal problem) ends without problems or with a window exhaustion after non-fatal ones
  (`processInChunks_problems`); an invariant the reader keeps of its state, the driver keeps
  (`processInChunks_invariant`).
* Lowering, absorbing and the reader's own warnings add no fatal problem
  (`readChunk_noFatal`).
-/

namespace Schemata

/-- No problem of the list ends a reading. -/
def NoFatal (problems : List Problem) : Prop := ∀ p ∈ problems, p.isFatal = false

@[simp] lemma noFatal_nil : NoFatal [] := by simp [NoFatal]

@[simp] lemma noFatal_append {a b : List Problem} : NoFatal (a ++ b) ↔ NoFatal a ∧ NoFatal b := by
  simp [NoFatal, or_imp, forall_and]

@[simp] lemma noFatal_singleton {p : Problem} : NoFatal [p] ↔ p.isFatal = false := by
  simp [NoFatal]

/-- Non-fatal problems, then one window exhaustion. -/
def ExhaustedLast (problems : List Problem) : Prop :=
  ∃ warnings line, problems = warnings ++ [.windowExhausted line] ∧ NoFatal warnings

/-! ## Read offsets at line feeds -/

/-- The bytes of a run of characters. -/
def charBytes (cs : List Char) : Nat := (cs.map utf8Size).sum

lemma one_le_utf8Size (c : Char) : 1 ≤ utf8Size c := by
  unfold utf8Size
  dsimp only
  split_ifs <;> omega

lemma byteOffsets_fold (cs : List Char) (arr : Array Nat) (b : Nat) :
    cs.foldl (fun (acc : Array Nat × Nat) c => (acc.1.push acc.2, acc.2 + utf8Size c)) (arr, b) =
      (arr ++ ((List.range cs.length).map fun k => b + charBytes (cs.take k)).toArray,
        b + charBytes cs) := by
  induction cs generalizing arr b with
  | nil => simp [charBytes]
  | cons c cs ih =>
    rw [List.foldl_cons, ih]
    simp only [List.length_cons, List.range_succ_eq_map, List.map_cons, List.map_map,
      List.take_zero, charBytes, List.map_nil, List.sum_nil, Nat.add_zero, Function.comp_def,
      List.take_succ_cons, List.sum_cons, Prod.mk.injEq]
    constructor
    · rw [List.toArray_cons, Array.push_eq_append, Array.append_assoc]
      congr 2
      simp [Nat.add_assoc]
    · omega

/-- The byte offsets of a text's characters, followed by its byte length. -/
lemma byteOffsets_eq (cs : List Char) :
    byteOffsets cs = ((List.range (cs.length + 1)).map fun k => charBytes (cs.take k)).toArray := by
  rw [byteOffsets, byteOffsets_fold, List.range_succ, List.map_append]
  simp [List.take_length]

/-- The byte offset of character `j` is the byte length of the characters before it. -/
lemma byteAt_ofString {text : String} {j : Nat} (inside : j ≤ text.length) :
    (SourceText.ofString text).byteAt j = charBytes (text.toList.take j) := by
  have within : j < text.toList.length + 1 := by rw [String.length_toList]; omega
  simp [SourceText.byteAt, SourceText.ofString, byteOffsets_eq, Array.getD_eq_getD_getElem?,
    within]

/-- Searching for the byte length of the first `j` characters finds character `j`. -/
lemma byteOffsetToCharIndex.go_charBytes (cs : List Char) {j : Nat} (inside : j ≤ cs.length)
    (bytes i : Nat) :
    byteOffsetToCharIndex.go (bytes + charBytes (cs.take j)) cs bytes i = some (i + j) := by
  induction cs generalizing j bytes i with
  | nil =>
    obtain rfl : j = 0 := by simpa using inside
    simp [byteOffsetToCharIndex.go, charBytes]
  | cons c cs ih =>
    cases j with
    | zero => simp [byteOffsetToCharIndex.go, charBytes]
    | succ j =>
      -- every character takes at least one byte, so the target lies past the first one
      have wide := one_le_utf8Size c
      have later := ih (j := j) (by simpa using inside) (bytes + utf8Size c) (i + 1)
      simp only [List.take_succ_cons, charBytes, List.map_cons, List.sum_cons] at later ⊢
      rw [byteOffsetToCharIndex.go, if_neg (by simp; omega), if_neg (by omega)]
      rw [show bytes + (utf8Size c + (List.map utf8Size (List.take j cs)).sum) =
        bytes + utf8Size c + (List.map utf8Size (List.take j cs)).sum by omega, later]
      congr 1
      omega

/-- The line of character `j` is one more than the line feeds before it. -/
lemma lineNumber.go_take (cs : List Char) {j : Nat} (inside : j < cs.length) (i line : Nat) :
    lineNumber.go (i + j) cs i line = some (line + (cs.take j).count '\n') := by
  induction cs generalizing j i line with
  | nil => simp at inside
  | cons c cs ih =>
    cases j with
    | zero => simp [lineNumber.go]
    | succ j =>
      have later := ih (j := j) (by simpa using inside) (i + 1)
        (if c == '\n' then line + 1 else line)
      rw [lineNumber.go, if_neg (by simp), show i + (j + 1) = i + 1 + j by omega, later]
      simp only [List.take_succ_cons, List.count_cons, beq_iff_eq, Option.some.injEq]
      split_ifs <;> omega

/-- A read offset on a line feed consumes the lines up to and including the one the feed ends,
whatever the window. -/
lemma linesConsumed_at_newline {chunk : String} {j : Nat} (feed : chunk.toList[j]? = some '\n')
    (window : Nat) :
    linesConsumed chunk (charBytes (chunk.toList.take j)) window =
      .ok ((chunk.toList.take j).count '\n' + 1) := by
  have inside : j < chunk.toList.length := (List.getElem?_eq_some_iff.mp feed).1
  have found := byteOffsetToCharIndex.go_charBytes chunk.toList inside.le 0 0
  have line := lineNumber.go_take chunk.toList inside 0 1
  simp only [Nat.zero_add] at found line
  rw [linesConsumed, byteOffsetToCharIndex, found]
  rw [String.length_toList] at inside
  simp only [beq_iff_eq, Nat.ne_of_lt inside, if_false, lineNumber, line, Nat.add_comm 1]

/-- A line feed at `j` leaves at least one more line feed than those before it. -/
lemma count_take_lt {cs : List Char} {j : Nat} (feed : cs[j]? = some '\n') :
    (cs.take j).count '\n' < cs.count '\n' := by
  have rest : cs.drop j = '\n' :: cs.drop (j + 1) := by
    rw [List.drop_eq_getElem_cons (List.getElem?_eq_some_iff.mp feed).1]
    rw [(List.getElem?_eq_some_iff.mp feed).2]
  have whole := congrArg (List.count '\n') (List.take_append_drop j cs)
  rw [List.count_append, rest, List.count_cons_self] at whole
  omega

/-- A text has one line more than it has line feeds. -/
lemma textLines_size (text : String) : (textLines text).size = text.toList.count '\n' + 1 := by
  have counted : ("\n".intercalate (textLines text).toList).toList.count '\n' + 1 =
      (textLines text).toList.length := count_newline_intercalate
    (fun l member => newline_not_mem_of_mem_textLines member)
    (by simpa [← Array.length_toList, List.length_pos_iff] using textLines_size_pos text)
  rw [intercalate_textLines] at counted
  simpa using counted.symm

/-! ## What the driver ends with -/

/-- A reader whose partial reads the driver always places, whatever the window, and whose
retries report no fatal problem. -/
structure CalmReader {σ : Type} (reader : σ → String → Nat → σ × ChunkOutcome) : Prop where
  accepted : ∀ st chunk offset read, (reader st chunk offset).2 = .readUpTo read →
    ∀ window, ∃ n, linesConsumed chunk read window = .ok n
  calm : ∀ st chunk offset at_ problems, (reader st chunk offset).2 = .retryAt at_ problems →
    NoFatal problems

section Outcomes

variable {σ : Type} {reader : σ → String → Nat → σ × ChunkOutcome} {lines : Array String}
  {chunkSize start offset : Nat}

/-- A search fails only by exhausting its growing windows. -/
lemma readAt_error (quiet : CalmReader reader) (st : σ) (size : Nat) (phase : WindowPhase) :
    ∀ st' problems, readAt reader lines chunkSize start offset st size phase =
      some (st', .error problems) → ExhaustedLast problems := by
  fun_induction readAt reader lines chunkSize start offset st size phase with
  | case1 | case2 | case3 | case7 => simp
  | case4 s size phase fits stop used chunk s' read refused rejected answer =>
    -- the reader's partial reads are always placed
    obtain ⟨n, accepted⟩ := quiet.accepted s chunk offset read (by rw [answer]) used
    rw [accepted] at rejected
    cases rejected
  -- a retried window: the search goes on
  | case5 s size fits stop used chunk s' retryOffset warnings small answer ih
  | case6 s size fits stop used chunk s' retryOffset warnings large answer ih
  | case9 s size fits stop used chunk s' retryOffset warnings next checked room answer ih => exact ih
  | case8 s size fits stop used chunk s' retryOffset warnings next checked limit answer =>
    rintro _ _ ⟨⟩
    exact ⟨warnings, start + 1, rfl, quiet.calm s chunk offset retryOffset warnings (by rw [answer])⟩

/-- A reading that returns ends without problems, or with a window exhaustion after non-fatal
problems. -/
lemma readFrom_problems (quiet : CalmReader reader) (st : σ) (cursor offset : Nat) :
    ∀ r, readFrom reader lines chunkSize st cursor offset = some r →
      r.2 = [] ∨ ExhaustedLast r.2 := by
  fun_induction readFrom reader lines chunkSize st cursor offset with
  | case1 s cursor offset inside s' next searched advance ih => exact ih
  | case2 s cursor offset inside s' problems searched =>
    rintro _ ⟨⟩
    exact .inr (readAt_error quiet s chunkSize .shrink s' problems searched)
  | case3 => simp
  | case4 =>
    rintro _ ⟨⟩
    exact .inl rfl

lemma processInChunks_problems (quiet : CalmReader reader) (input : String) (init : σ) :
    ∀ r, processInChunks reader input chunkSize init = some r → r.2 = [] ∨ ExhaustedLast r.2 := by
  unfold processInChunks
  split
  · rintro _ ⟨⟩
    exact .inl rfl
  · exact readFrom_problems quiet init 0 0

/-- What the reader keeps of its state, a search that returns keeps. -/
lemma readAt_invariant (Inv : σ → Prop)
    (keeps : ∀ st chunk offset, Inv st → Inv (reader st chunk offset).1)
    (st : σ) (size : Nat) (phase : WindowPhase) (holds : Inv st) :
    ∀ r, readAt reader lines chunkSize start offset st size phase = some r → Inv r.1 := by
  have next {s s' : σ} {chunk : String} {outcome : ChunkOutcome}
      (answer : reader s chunk offset = (s', outcome)) (holds : Inv s) : Inv s' := by
    simpa [answer] using keeps s chunk offset holds
  fun_induction readAt reader lines chunkSize start offset st size phase with
  | case1 | case7 => simp
  -- the search ends at this window, with the state the reader leaves
  | case2 s size phase fits stop chunk s' answer
  | case3 s size phase fits stop used chunk s' read n accepted answer
  | case4 s size phase fits stop used chunk s' read refused rejected answer
  | case8 s size fits stop used chunk s' retryOffset warnings grown checked limit answer =>
    rintro _ ⟨⟩
    exact next answer holds
  -- the search goes on from the state the reader leaves
  | case5 s size fits stop used chunk s' retryOffset warnings small answer ih
  | case6 s size fits stop used chunk s' retryOffset warnings large answer ih
  | case9 s size fits stop used chunk s' retryOffset warnings grown checked room answer ih =>
    exact ih (next answer holds)

/-- What the reader keeps of its state, a reading that returns keeps. -/
lemma readFrom_invariant (Inv : σ → Prop)
    (keeps : ∀ st chunk offset, Inv st → Inv (reader st chunk offset).1)
    (st : σ) (cursor offset : Nat) (holds : Inv st) :
    ∀ r, readFrom reader lines chunkSize st cursor offset = some r → Inv r.1 := by
  fun_induction readFrom reader lines chunkSize st cursor offset with
  | case1 s cursor offset inside s' found searched advance ih =>
    exact ih (readAt_invariant Inv keeps s chunkSize .shrink holds _ searched)
  | case2 s cursor offset inside s' problems searched =>
    rintro _ ⟨⟩
    exact readAt_invariant Inv keeps s chunkSize .shrink holds _ searched
  | case3 => simp
  | case4 =>
    rintro _ ⟨⟩
    exact holds

lemma processInChunks_invariant (Inv : σ → Prop)
    (keeps : ∀ st chunk offset, Inv st → Inv (reader st chunk offset).1)
    (input : String) (chunkSize : Nat) (init : σ) (holds : Inv init) :
    ∀ r, processInChunks reader input chunkSize init = some r → Inv r.1 := by
  unfold processInChunks
  split
  · rintro _ ⟨⟩
    exact holds
  · exact readFrom_invariant Inv keeps init 0 0 holds

end Outcomes

/-! ## Problems that end with at most one window exhaustion -/

/-- No problem is fatal, or one window exhaustion comes last after non-fatal ones. -/
def FatalLast (problems : List Problem) : Prop := NoFatal problems ∨ ExhaustedLast problems

lemma FatalLast.append {warnings rest : List Problem} (calm : NoFatal warnings)
    (ending : rest = [] ∨ ExhaustedLast rest) : FatalLast (warnings ++ rest) := by
  rcases ending with rfl | ⟨before, line, rfl, quiet⟩
  · exact .inl (by simpa using calm)
  · exact .inr ⟨warnings ++ before, line, by simp, by simp [calm, quiet]⟩

lemma FatalLast.not_unexpectedCondition {problems : List Problem} (h : FatalLast problems)
    (message : String) : Problem.unexpectedCondition message ∉ problems := by
  intro member
  rcases h with calm | ⟨warnings, line, rfl, calm⟩
  · simpa [Problem.isFatal] using calm _ member
  · simp only [List.mem_append, List.mem_singleton, reduceCtorEq, or_false] at member
    simpa [Problem.isFatal] using calm _ member

lemma FatalLast.fatal_length_le {problems : List Problem} (h : FatalLast problems) :
    (problems.filter (·.isFatal)).length ≤ 1 := by
  have none {warnings : List Problem} (calm : NoFatal warnings) :
      warnings.filter (·.isFatal) = [] :=
    List.filter_eq_nil_iff.mpr fun p member => by simp [calm p member]
  rcases h with calm | ⟨warnings, line, rfl, calm⟩
  · simp [none calm]
  · rw [List.filter_append, none calm]
    simp [Problem.isFatal]

lemma FatalLast.fatal_last {problems : List Problem} (h : FatalLast problems) :
    ∀ p ∈ problems, p.isFatal = true →
      (∃ line, p = .windowExhausted line) ∧ problems.getLast? = some p := by
  intro p member fatal
  rcases h with calm | ⟨warnings, line, rfl, calm⟩
  · simp [calm p member] at fatal
  · rcases List.mem_append.mp member with early | last
    · simp [calm p early] at fatal
    · obtain rfl := List.mem_singleton.mp last
      exact ⟨⟨line, rfl⟩, by simp⟩

namespace Sql

/-! ## The SQL reader -/

lemma lastNewlineBefore_get {src : SourceText} {i j : Nat} (h : lastNewlineBefore src i = some j) :
    src.get? j = some '\n' := by
  simpa using List.find?_some h

/-- A partial read of a chunk stops at a line feed of the chunk: its offset is the byte index of
that line feed. -/
lemma readChunk_readUpTo {st st' : ConvertState} {chunk : String} {offset read : Nat}
    {atEnd : Bool} (h : readChunk st chunk offset atEnd = (st', .readUpTo read)) :
    ∃ j, chunk.toList[j]? = some '\n' ∧ read = charBytes (chunk.toList.take j) := by
  unfold readChunk at h
  dsimp only at h
  split at h
  · cases h
  · split at h
    · rename_i newline found
      obtain ⟨-, answer⟩ := Prod.mk.inj h
      cases answer
      have feed : chunk.toList[newline]? = some '\n' := by
        simpa [SourceText.get?, SourceText.ofString] using lastNewlineBefore_get found
      have inside : newline ≤ chunk.length := by
        rw [← String.length_toList]
        exact (List.getElem?_eq_some_iff.mp feed).1.le
      exact ⟨newline, feed, by rw [byteAt_ofString inside]⟩
    · split at h <;> cases h

/-- A retry reports only that a statement is cut off. -/
lemma readChunk_retryAt {st st' : ConvertState} {chunk : String} {offset at_ : Nat} {atEnd : Bool}
    {problems : List Problem} (h : readChunk st chunk offset atEnd = (st', .retryAt at_ problems)) :
    ∃ o, problems = [unterminated o] := by
  unfold readChunk at h
  dsimp only at h
  split at h
  · cases h
  · split at h
    · cases h
    · split at h
      · cases h
      · obtain ⟨-, answer⟩ := Prod.mk.inj h
        cases answer
        exact ⟨_, rfl⟩

/-- A fragment that carries no fatal problem. -/
def Fragment.Quiet (f : Fragment) : Prop := ∀ p, f = .warning p → p.isFatal = false

lemma lowerTableConstraint_quiet (table : String) (tc : TableConstraint) :
    (lowerTableConstraint table tc).Quiet := by
  unfold lowerTableConstraint
  split <;> simp [Fragment.Quiet]

/-- Lowering a statement gives no warnings at all. -/
lemma lower_quiet (s : Statement) : ∀ f ∈ lower s, f.Quiet := by
  intro f member
  cases s with
  | alterTable table commands =>
    obtain ⟨command, -, made⟩ := List.mem_filterMap.mp member
    cases command with
    | addConstraint tc =>
      cases made
      exact lowerTableConstraint_quiet table tc
    | addColumn d =>
      cases made
      simp [Fragment.Quiet]
    | other => cases made
  | comment target text => cases target <;> simp_all [lower, Fragment.Quiet]
  | _ => simp_all [lower, lowerCreateTable, lowerCreateIndex, Fragment.Quiet]

namespace ConvertState

@[simp] lemma dangling_problems (st : ConvertState) (message : String) :
    (st.dangling message).problems = st.problems ++ [.danglingReference message] := rfl

lemma withTable_noFatal {st : ConvertState} (calm : NoFatal st.problems) (table what : String)
    (f : Table → Table) : NoFatal (st.withTable table what f).problems := by
  unfold withTable
  split <;> simp [calm, Problem.isFatal]

/-- The target columns a foreign key gets when it is absorbed: its own, or else the primary key
of the referenced table as known so far, or else `id`. -/
def targetColumnsOf (st : ConvertState) (fk : PendingForeignKey) : List String :=
  if fk.target.columns.isEmpty then
    match (st.schema.tables.get? fk.target.table).bind Table.primaryKey? with
    | some pk => pk.columnNames
    | none => ["id"]
  else fk.target.columns

lemma absorbForeignKey_eq (st : ConvertState) (table : String) (fk : PendingForeignKey) :
    st.absorbForeignKey table fk =
      match fk.columns.head?, (st.targetColumnsOf fk).head? with
      | some column, some targetColumn =>
        if st.schema.tables.contains table then
          { st with schema := ((st.schema.modifyTable table (·.addConstraint
              (.foreignKey (fk.name.getD (relationshipName fk.target.table targetColumn table column))
                fk.columns fk.target.table (st.targetColumnsOf fk) fk.target.onUpdate
                fk.target.onDelete))).addRelationship
              { Relationship.new fk.target.table targetColumn table column with
                onUpdate := fk.target.onUpdate, onDelete := fk.target.onDelete }) }
        else st.dangling ("foreign key targets missing table \"" ++ table ++ "\"")
      | _, _ => st := rfl

lemma absorbForeignKey_noFatal {st : ConvertState} (calm : NoFatal st.problems) (table : String)
    (fk : PendingForeignKey) : NoFatal (st.absorbForeignKey table fk).problems := by
  rw [absorbForeignKey_eq]
  split
  · split <;> simp [calm, Problem.isFatal]
  · exact calm

lemma foldl_absorbForeignKey_noFatal (table : String) (fks : List PendingForeignKey)
    {st : ConvertState} (calm : NoFatal st.problems) :
    NoFatal (fks.foldl (fun st fk => st.absorbForeignKey table fk) st).problems := by
  induction fks generalizing st with
  | nil => exact calm
  | cons fk fks ih => exact ih (absorbForeignKey_noFatal calm table fk)

/-- Absorbing a fragment adds dangling references and the fragment's own warning, nothing else. -/
lemma absorb_noFatal {st : ConvertState} (calm : NoFatal st.problems) {f : Fragment}
    (quiet : f.Quiet) : NoFatal (st.absorb f).problems := by
  cases f with
  | table t fks => exact foldl_absorbForeignKey_noFatal t.name fks calm
  | column table c constraints fks =>
    rw [absorb]
    split
    · exact foldl_absorbForeignKey_noFatal table fks (withTable_noFatal calm table "column" _)
    · simp [calm, Problem.isFatal]
  | constraint table c => exact withTable_noFatal calm table "constraint" _
  | foreignKey table fk => exact absorbForeignKey_noFatal calm table fk
  | index table i => exact withTable_noFatal calm table "index" _
  | tableComment table comment => exact withTable_noFatal calm table "comment" _
  | columnComment table column comment =>
    rw [absorb]
    split <;> simp [calm, Problem.isFatal]
  | enumType e => exact calm
  | extension e => exact calm
  | warning p => simpa [absorb, calm] using quiet p rfl

lemma foldl_absorb_noFatal {fs : List Fragment} (quiet : ∀ f ∈ fs, f.Quiet) {st : ConvertState}
    (calm : NoFatal st.problems) : NoFatal (fs.foldl absorb st).problems := by
  induction fs generalizing st with
  | nil => exact calm
  | cons f fs ih =>
    exact ih (fun g member => quiet g (List.mem_cons_of_mem f member))
      (absorb_noFatal calm (quiet f List.mem_cons_self))

end ConvertState

/-- Converting statements adds no fatal problem: a statement that does not parse becomes a
warning about an unexpected token. -/
lemma convert_noFatal (src : SourceText) (offset : Nat) (statements : List RawStatement)
    {st : ConvertState} (calm : NoFatal st.problems) :
    NoFatal (convert src offset st statements).problems := by
  unfold convert
  induction statements generalizing st with
  | nil => exact calm
  | cons raw rest ih =>
    rw [List.foldl_cons]
    apply ih
    apply ConvertState.foldl_absorb_noFatal _ calm
    split
    · exact lower_quiet _
    · simp [Fragment.Quiet, Problem.isFatal]

lemma readChunk_noFatal {st : ConvertState} (calm : NoFatal st.problems) (chunk : String)
    (offset : Nat) (atEnd : Bool) : NoFatal (readChunk st chunk offset atEnd).1.problems := by
  unfold readChunk
  dsimp only
  split
  · exact convert_noFatal _ _ _ calm
  · split
    · exact convert_noFatal _ _ _ calm
    · split
      · simp [convert_noFatal _ _ _ calm, unterminated, Problem.isFatal]
      · exact calm

/-- The reader of `parsePostgres`, told whether a chunk reaches the end of a text of `total`
bytes, places its partial reads and retries without fatal problems. -/
lemma readChunk_calm (total : Nat) :
    CalmReader (fun st chunk offset => readChunk st chunk offset (offset + chunk.utf8ByteSize ≥ total)) where
  accepted st chunk offset read answer window := by
    obtain ⟨j, feed, rfl⟩ := readChunk_readUpTo (Prod.ext rfl answer)
    exact ⟨_, linesConsumed_at_newline feed window⟩
  calm st chunk offset at_ problems answer := by
    obtain ⟨o, rfl⟩ := readChunk_retryAt (Prod.ext rfl answer)
    simp [unterminated, Problem.isFatal]

/-- Reading PostgreSQL DDL ends without fatal problems, or with one window exhaustion last. -/
lemma parsePostgres_fatalLast (input : String) (chunkSize : Nat) :
    FatalLast (parsePostgres input chunkSize).problems := by
  unfold parsePostgres
  cases ran : runPostgres input chunkSize with
  | none => exact .inl noFatal_nil
  | some r =>
    have state : NoFatal r.1.problems :=
      processInChunks_invariant (fun st : ConvertState => NoFatal st.problems)
        (fun st chunk offset calm => readChunk_noFatal calm chunk offset _) input chunkSize {}
        noFatal_nil r ran
    have driver : r.2 = [] ∨ ExhaustedLast r.2 :=
      processInChunks_problems (readChunk_calm input.utf8ByteSize) input {} r ran
    exact FatalLast.append state driver

/-- **Reading PostgreSQL DDL fails only by window exhaustion.** A partial read of a chunk stops
at a line feed of the chunk, so the driver places it in every window and consumes at least one
line and fewer lines than the chunk has. Hence, for every text and window size, the problems of
the reading contain no driver inconsistency, at most one fatal problem, and a fatal problem only
as a window exhaustion placed last. -/
theorem parsePostgres_fatal_only_exhaustion (input : String) (chunkSize : Nat) :
    (∀ st st' chunk offset atEnd read,
      readChunk st chunk offset atEnd = (st', .readUpTo read) →
        ∃ j, chunk.toList[j]? = some '\n' ∧ read = charBytes (chunk.toList.take j) ∧
          ∃ n, (∀ window, linesConsumed chunk read window = .ok n) ∧
            0 < n ∧ n < (textLines chunk).size) ∧
    (∀ message, Problem.unexpectedCondition message ∉ (parsePostgres input chunkSize).problems) ∧
    ((parsePostgres input chunkSize).problems.filter (·.isFatal)).length ≤ 1 ∧
    ∀ p ∈ (parsePostgres input chunkSize).problems, p.isFatal = true →
      (∃ line, p = .windowExhausted line) ∧ (parsePostgres input chunkSize).problems.getLast? = some p := by
  have ending := parsePostgres_fatalLast input chunkSize
  refine ⟨?_, ending.not_unexpectedCondition, ending.fatal_length_le, ending.fatal_last⟩
  intro st st' chunk offset atEnd read answer
  obtain ⟨j, feed, rfl⟩ := readChunk_readUpTo answer
  refine ⟨j, feed, rfl, _, linesConsumed_at_newline feed, by omega, ?_⟩
  have := count_take_lt feed
  rw [textLines_size]
  omega

end Sql

end Schemata
