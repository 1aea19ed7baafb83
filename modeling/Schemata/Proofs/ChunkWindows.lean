import Mathlib
import Schemata.Parse.Chunks

/-!
# The chunk driver: exact windows, bounded retries, every line once

`processInChunks` cuts a text at its line feeds and offers a reader windows of consecutive
lines. This module proves what the driver promises a reader, for every reader, every text and
every window size that, added to the number of lines, fits a machine word
(`processInChunks_windows`):

* the driver returns: no window end overflows (`readAt_isSome`);

* every chunk is a run of whole lines of the text, offered at the byte offset where it starts
  (`IsLineSlice`);
* a line start is offered at most `2 * max chunkSize 1 + 1` windows: the shrinking windows,
  then the growing ones (`searchBound`);
* a retry keeps the offset, and an accepted window moves it forward, because a read offset
  never consumes no line or more lines than the window holds (`linesConsumed_bounds`);
* when the reading ends without problems, the accepted windows consume the text's lines in
  order, each exactly once.

At a larger window size the driver panics as soon as a search starts past the first line: at
`wordSize - 1` lines, the end of any window after the first overflows
(`processInChunks_overflows`).

The calls are observed through `recording`, a reader that runs another one and keeps a log of
every chunk, offset and answer.
-/

namespace Schemata

/-! ## The lines of a text -/

lemma not_mem_of_mem_splitOn {c : Char} {xs l : List Char} (h : l ∈ xs.splitOn c) : c ∉ l := by
  induction xs generalizing l with
  | nil => simp_all
  | cons x xs ih =>
    rw [List.splitOn_cons_eq_if_modifyHead] at h
    obtain ⟨hd, tl, pieces⟩ := List.exists_cons_of_ne_nil (List.splitOn_ne_nil c xs)
    split at h
    · rcases List.mem_cons.mp h with rfl | later
      · simp
      · exact ih later
    · rename_i other
      rw [pieces, List.modifyHead_cons] at h
      rcases List.mem_cons.mp h with rfl | later
      · have rest : c ∉ hd := ih (by simp [pieces])
        simp only [List.mem_cons, not_or]
        exact ⟨fun same => other (by simp [same]), rest⟩
      · exact ih (by simp [pieces, later])

lemma textLines_toList (text : String) :
    (textLines text).toList = (text.toList.splitOn '\n').map String.ofList := by
  simp [textLines]

lemma newline_not_mem_of_mem_textLines {text l : String} (h : l ∈ (textLines text).toList) :
    '\n' ∉ l.toList := by
  rw [textLines_toList, List.mem_map] at h
  obtain ⟨cs, piece, rfl⟩ := h
  simpa using not_mem_of_mem_splitOn piece

lemma textLines_size_pos (text : String) : 0 < (textLines text).size := by
  simp [textLines, List.length_pos_iff]

/-- A text is its lines joined by line feeds. -/
lemma intercalate_textLines (text : String) : "\n".intercalate (textLines text).toList = text := by
  rw [← String.toList_inj, String.toList_intercalate, textLines_toList, List.map_map]
  simp [Function.comp_def]

/-! ## Chunks are runs of whole lines -/

/-- `chunk` is the text of `input` from byte `offset` on, made of whole lines: it starts at
the start of a line of `input` and ends at the end of one. -/
def IsLineSlice (input chunk : String) (offset : Nat) : Prop :=
  ∃ before after : String, input = before ++ chunk ++ after ∧ before.utf8ByteSize = offset ∧
    (before = "" ∨ ∃ b, before = b ++ "\n") ∧ (after = "" ∨ ∃ a, after = "\n" ++ a)

lemma intercalate_append_join {B C : List String} (hB : B ≠ []) :
    "\n".intercalate (B ++ C) = "\n".intercalate B ++ String.join (C.map ("\n" ++ ·)) := by
  induction C generalizing B with
  | nil => simp
  | cons c C ih =>
    rw [List.append_cons, ih (by simp), String.intercalate_append_of_ne_nil hB (by simp)]
    simp [String.append_assoc]

/-- Lines joined by line feeds sit between the lines before them, each ended by a line feed,
and the lines after them, each started by one. -/
lemma intercalate_around {A B C : List String} (hB : B ≠ []) :
    "\n".intercalate (A ++ B ++ C) =
      String.join (A.map (· ++ "\n")) ++ "\n".intercalate B ++
        String.join (C.map ("\n" ++ ·)) := by
  induction A with
  | nil => simpa using intercalate_append_join hB
  | cons a A ih =>
    rw [List.cons_append, List.cons_append, String.intercalate_cons_of_ne_nil (by simp [hB]), ih]
    simp [String.append_assoc]

lemma utf8ByteSize_join_lines (xs : List String) :
    (String.join (xs.map (· ++ "\n"))).utf8ByteSize = (xs.map (·.utf8ByteSize + 1)).sum := by
  induction xs with
  | nil => simp
  | cons x xs ih =>
    simp only [List.map_cons, String.join_cons, String.utf8ByteSize_append, ih, List.sum_cons]
    rfl

lemma join_lines_ends (xs : List String) :
    String.join (xs.map (· ++ "\n")) = "" ∨ ∃ b, String.join (xs.map (· ++ "\n")) = b ++ "\n" := by
  rcases List.eq_nil_or_concat xs with rfl | ⟨ys, y, rfl⟩
  · simp
  · exact .inr ⟨String.join (ys.map (· ++ "\n")) ++ y, by simp [String.append_assoc]⟩

lemma join_lines_starts (xs : List String) :
    String.join (xs.map ("\n" ++ ·)) = "" ∨ ∃ a, String.join (xs.map ("\n" ++ ·)) = "\n" ++ a := by
  cases xs with
  | nil => simp
  | cons x xs => exact .inr ⟨x ++ String.join (xs.map ("\n" ++ ·)), by simp [String.append_assoc]⟩

/-- The bytes of lines `[a, b)`, each with its line feed. -/
lemma linesBytes_eq_sum (lines : Array String) (a b : Nat) :
    linesBytes lines a b = ((lines.toList.extract a b).map (·.utf8ByteSize + 1)).sum := by
  rw [linesBytes, ← Array.foldl_toList, Array.toList_extract]
  generalize lines.toList.extract a b = xs
  suffices shifted : ∀ acc, xs.foldl (fun n l => n + l.utf8ByteSize + 1) acc =
      acc + (xs.map (·.utf8ByteSize + 1)).sum by
    simpa using shifted 0
  induction xs with
  | nil => simp
  | cons x xs ih =>
    intro acc
    simp only [List.foldl_cons, ih, List.map_cons, List.sum_cons]
    omega

lemma extract_append_extract {L : List String} {a b c : Nat} (ab : a ≤ b) (bc : b ≤ c) :
    L.extract a b ++ L.extract b c = L.extract a c := by
  simp only [List.extract_eq_take_drop]
  have sizes : c - a = (b - a) + (c - b) := by omega
  rw [sizes, List.take_add, List.drop_drop]
  congr 3
  omega

lemma linesBytes_add {lines : Array String} {a b c : Nat} (ab : a ≤ b) (bc : b ≤ c) :
    linesBytes lines a b + linesBytes lines b c = linesBytes lines a c := by
  simp only [linesBytes_eq_sum, ← extract_append_extract ab bc, List.map_append, List.sum_append]

/-- Every line of a run takes at least its line feed's byte. -/
lemma linesBytes_pos {lines : Array String} {a b : Nat} (ab : a < b) (inside : b ≤ lines.size) :
    0 < linesBytes lines a b := by
  rw [linesBytes_eq_sum]
  obtain ⟨l, rest, run⟩ : ∃ l rest, lines.toList.extract a b = l :: rest := by
    apply List.exists_cons_of_ne_nil
    simp only [List.extract_eq_take_drop, ne_eq, List.take_eq_nil_iff, List.drop_eq_nil_iff,
      Array.length_toList]
    omega
  simp [run]

/-- Lines that a window holds are nonempty. -/
lemma extract_ne_nil {L : List String} {a b : Nat} (ab : a < b) (inside : b ≤ L.length) :
    L.extract a b ≠ [] := by
  simp only [List.extract_eq_take_drop, ne_eq, List.take_eq_nil_iff, List.drop_eq_nil_iff]
  omega

lemma isLineSlice_chunkOf {input : String} {a b : Nat} (ab : a < b)
    (inside : b ≤ (textLines input).size) :
    IsLineSlice input (chunkOf (textLines input) a b) (linesBytes (textLines input) 0 a) := by
  set L := (textLines input).toList with hL
  have pieces : L = L.take a ++ L.extract a b ++ L.drop b := by
    have front : L.take a ++ L.extract a b = L.take b := by
      simpa using extract_append_extract (L := L) (Nat.zero_le a) ab.le
    rw [front, List.take_append_drop]
  refine ⟨String.join ((L.take a).map (· ++ "\n")), String.join ((L.drop b).map ("\n" ++ ·)),
    ?_, ?_, join_lines_ends _, join_lines_starts _⟩
  · have whole := intercalate_textLines input
    rw [← hL, pieces, intercalate_around (extract_ne_nil ab (by simpa [hL] using inside))] at whole
    rw [chunkOf, Array.toList_extract, ← hL]
    exact whole.symm
  · rw [utf8ByteSize_join_lines, linesBytes_eq_sum]
    simp [hL]

/-- The lines of a chunk are the lines it was cut from. -/
lemma textLines_chunkOf {lines : Array String} {a b : Nat} (ab : a < b) (inside : b ≤ lines.size)
    (whole : ∀ l ∈ lines.toList, '\n' ∉ l.toList) :
    (textLines (chunkOf lines a b)).toList = lines.toList.extract a b := by
  have run := extract_ne_nil (L := lines.toList) ab (by simpa using inside)
  have plain : ∀ l ∈ (lines.toList.extract a b).map String.toList, '\n' ∉ l := by
    simp only [List.mem_map]
    rintro _ ⟨l, member, rfl⟩
    exact whole l (List.mem_of_mem_drop (List.mem_of_mem_take member))
  rw [textLines_toList, chunkOf, Array.toList_extract, String.toList_intercalate]
  rw [show "\n".toList = ['\n'] from rfl, List.splitOn_intercalate '\n' plain (by simpa using run)]
  simp [Function.comp_def]

/-! ## A read offset consumes at least one line and at most the window -/

lemma byteOffsetToCharIndex.go_le {offset bytes i index : Nat} {cs : List Char}
    (h : byteOffsetToCharIndex.go offset cs bytes i = some index) : index ≤ i + cs.length := by
  induction cs generalizing bytes i with
  | nil =>
    simp only [byteOffsetToCharIndex.go] at h
    split at h <;> simp_all
  | cons c cs ih =>
    simp only [byteOffsetToCharIndex.go] at h
    split at h
    · cases h
      simp
    · split at h
      · cases h
      · have later := ih h
        simp only [List.length_cons]
        omega

/-- The line of a character is one more than the line feeds before it. -/
lemma lineNumber.go_bounds {index i line n : Nat} {cs : List Char}
    (h : lineNumber.go index cs i line = some n) : line ≤ n ∧ n ≤ line + cs.count '\n' := by
  induction cs generalizing i line with
  | nil => simp [lineNumber.go] at h
  | cons c cs ih =>
    simp only [lineNumber.go] at h
    split at h
    · cases h
      simp
    · have later := ih h
      simp only [List.count_cons, beq_iff_eq] at later ⊢
      split_ifs at later ⊢ <;> omega

/-- A read offset the driver accepts consumes at least one line and no more than the window
holds, for a window with more lines than its chunk has line feeds. -/
lemma linesConsumed_bounds {chunk : String} {read window n : Nat}
    (fewer : chunk.toList.count '\n' < window) (h : linesConsumed chunk read window = .ok n) :
    0 < n ∧ n ≤ window := by
  unfold linesConsumed at h
  split at h
  · cases h
  · split at h
    · cases h
      omega
    · split at h
      · rename_i line found
        cases h
        have := lineNumber.go_bounds found
        omega
      · cases h

/-- An offset on a line feed consumes the line the feed ends; the next offset, one line more. -/
example : linesConsumed "a\nbc" 1 2 = .ok 1 ∧ linesConsumed "a\nbc" 2 2 = .ok 2 := ⟨rfl, rfl⟩

lemma linesConsumed_error_ne_nil {chunk : String} {read window : Nat} {problems : List Problem}
    (h : linesConsumed chunk read window = .error problems) : problems ≠ [] := by
  unfold linesConsumed at h
  split at h
  · cases h
    simp
  · split at h
    · cases h
    · split at h
      · cases h
      · cases h
        simp

/-- A chunk of `k` lines has `k - 1` line feeds. -/
lemma count_newline_intercalate {ls : List String} (whole : ∀ l ∈ ls, '\n' ∉ l.toList)
    (run : ls ≠ []) : ("\n".intercalate ls).toList.count '\n' + 1 = ls.length := by
  induction ls with
  | nil => contradiction
  | cons l ls ih =>
    have own : l.toList.count '\n' = 0 := List.count_eq_zero.mpr (whole l (by simp))
    cases ls with
    | nil => simp [own]
    | cons m ms =>
      have rest := ih (fun k member => whole k (List.mem_cons_of_mem l member)) (by simp)
      rw [String.intercalate_cons_cons, String.toList_append, String.toList_append,
        List.count_append, List.count_append, own, show "\n".toList = ['\n'] from rfl,
        List.count_singleton_self]
      simp only [List.length_cons] at rest ⊢
      omega

/-! ## Recording the reader's calls -/

/-- One call of the reader: the chunk it was offered, the chunk's byte offset in the text and
the reader's answer. -/
structure ChunkCall where
  chunk : String
  offset : Nat
  outcome : ChunkOutcome

/-- Whether the reader asked for another window at the same line. -/
def ChunkOutcome.isRetry : ChunkOutcome → Bool
  | .retryAt .. => true
  | _ => false

/-- The lines of its chunk that a call's answer consumes: all of them for a complete read,
those up to the line holding the read offset for a partial one, and none for a retry or for a
read offset the driver refuses. -/
def ChunkCall.consumed (c : ChunkCall) : List String :=
  let lines := (textLines c.chunk).toList
  match c.outcome with
  | .complete => lines
  | .readUpTo read =>
    match linesConsumed c.chunk read lines.length with
    | .ok n => lines.take n
    | .error _ => []
  | .retryAt .. => []

section Recording

variable {σ : Type}

/-- The reader `reader`, keeping a log of every call made to it, in order. -/
def recording (reader : σ → String → Nat → σ × ChunkOutcome) (s : List ChunkCall × σ)
    (chunk : String) (offset : Nat) : (List ChunkCall × σ) × ChunkOutcome :=
  let answer := reader s.2 chunk offset
  ((s.1 ++ [⟨chunk, offset, answer.2⟩], answer.1), answer.2)

lemma recording_log {reader : σ → String → Nat → σ × ChunkOutcome} {s s' : List ChunkCall × σ}
    {chunk : String} {offset : Nat} {outcome : ChunkOutcome}
    (h : recording reader s chunk offset = (s', outcome)) :
    s'.1 = s.1 ++ [⟨chunk, offset, outcome⟩] := by
  simp only [recording, Prod.mk.injEq] at h
  obtain ⟨rfl, rfl⟩ := h
  rfl

lemma recording_answer {reader : σ → String → Nat → σ × ChunkOutcome} {s s' : List ChunkCall × σ}
    {chunk : String} {offset : Nat} {outcome : ChunkOutcome}
    (h : recording reader s chunk offset = (s', outcome)) :
    reader s.2 chunk offset = (s'.2, outcome) := by
  simp only [recording, Prod.mk.injEq] at h
  obtain ⟨rfl, rfl⟩ := h
  rfl

end Recording

/-! ## One search for a window -/

/-- How many windows a search at a line may still offer, from a window of `size` lines, when
`avail` lines are left: the shrinking windows down to one line, then the growing ones from
`chunkSize` lines up to `2 * chunkSize`. -/
def searchBound (avail chunkSize size : Nat) : WindowPhase → Nat
  | .shrink => min size avail + (2 * chunkSize + 1 - min chunkSize avail)
  | .grow => 2 * chunkSize + 1 - min size avail

/-- A whole search offers at most `2 * chunkSize + 1` windows. -/
lemma searchBound_start (avail chunkSize : Nat) :
    searchBound avail chunkSize chunkSize .shrink = 2 * chunkSize + 1 := by
  simp only [searchBound]
  omega

/-- A search not yet ended may still offer the window it is at. -/
lemma one_le_searchBound {avail chunkSize size : Nat} {phase : WindowPhase} (positive : 0 < size)
    (left : 0 < avail) (capped : phase = .grow → size ≤ 2 * chunkSize) :
    1 ≤ searchBound avail chunkSize size phase := by
  cases phase with
  | shrink =>
    simp only [searchBound]
    omega
  | grow =>
    have := capped rfl
    simp only [searchBound]
    omega

/-- Each retry of a search spends one of the windows it may offer: shrinking to one line, then
growing from `chunkSize` lines. -/
lemma searchBound_shrink_grow {avail chunkSize size : Nat} (positive : 0 < size) (left : 0 < avail)
    (small : min size avail ≤ 1) :
    searchBound avail chunkSize chunkSize .grow + 1 ≤ searchBound avail chunkSize size .shrink := by
  simp only [searchBound]
  omega

lemma searchBound_shrink {avail chunkSize size : Nat} (large : 1 < min size avail) :
    searchBound avail chunkSize (min size avail - 1) .shrink + 1 ≤
      searchBound avail chunkSize size .shrink := by
  simp only [searchBound]
  omega

lemma searchBound_grow {start total chunkSize size : Nat}
    (room : start + (min size (total - start) + 1) ≤ total)
    (capped : min size (total - start) + 1 ≤ chunkSize * 2) :
    searchBound (total - start) chunkSize (min size (total - start) + 1) .grow + 1 ≤
      searchBound (total - start) chunkSize size .grow := by
  simp only [searchBound]
  omega

/-- The window of `size` lines at line `start`: it ends past `start` and within the text, and
holds `min size (total - start)` lines. -/
lemma window_bounds {start size total : Nat} (inside : start < total) (positive : 0 < size) :
    start < min (start + size) total ∧ min (start + size) total ≤ total ∧
      min (start + size) total - start = min size (total - start) := by
  omega

/-- What a search for a window at line `start` and byte `offset` records, when it ends with
`result`: every call offers lines `[start, stop)` for some `stop`, every call but the last asks
to retry, and when the search ends at line `next` the last call consumes lines
`[start, next)`; a search that fails names its problems. -/
structure Search (lines : Array String) (start offset : Nat) (calls : List ChunkCall)
    (result : Except (List Problem) Nat) : Prop where
  windows : ∀ c ∈ calls, c.offset = offset ∧
    ∃ stop, start < stop ∧ stop ≤ lines.size ∧ c.chunk = chunkOf lines start stop
  last : ∃ tried final, calls = tried ++ [final] ∧ (∀ c ∈ tried, c.outcome.isRetry = true) ∧
    ∀ next, result = .ok next → final.outcome.isRetry = false ∧ start < next ∧
      next ≤ lines.size ∧ final.consumed = lines.toList.extract start next
  failed : ∀ problems, result = .error problems → problems ≠ []

/-- A search that ends at its first call. -/
lemma Search.single {lines : Array String} {start offset stop : Nat} {outcome : ChunkOutcome}
    {result : Except (List Problem) Nat} (lower : start < stop) (upper : stop ≤ lines.size)
    (accepted : ∀ next, result = .ok next → outcome.isRetry = false ∧ start < next ∧
      next ≤ lines.size ∧
      ChunkCall.consumed ⟨chunkOf lines start stop, offset, outcome⟩ =
        lines.toList.extract start next)
    (failed : ∀ problems, result = .error problems → problems ≠ []) :
    Search lines start offset [⟨chunkOf lines start stop, offset, outcome⟩] result where
  windows := by
    intro c member
    rw [List.mem_singleton] at member
    subst member
    exact ⟨rfl, stop, lower, upper, rfl⟩
  last := ⟨[], _, rfl, by simp, accepted⟩
  failed := failed

/-- A retry, then a search at the same line. -/
lemma Search.retry {lines : Array String} {start offset stop : Nat} {outcome : ChunkOutcome}
    {calls : List ChunkCall} {result : Except (List Problem) Nat} (lower : start < stop)
    (upper : stop ≤ lines.size) (retried : outcome.isRetry = true)
    (rest : Search lines start offset calls result) :
    Search lines start offset (⟨chunkOf lines start stop, offset, outcome⟩ :: calls) result where
  windows := by
    intro c member
    rcases List.mem_cons.mp member with rfl | later
    · exact ⟨rfl, stop, lower, upper, rfl⟩
    · exact rest.windows c later
  last := by
    obtain ⟨tried, final, rfl, retries, accepted⟩ := rest.last
    refine ⟨_ :: tried, final, rfl, ?_, accepted⟩
    simp only [List.mem_cons, forall_eq_or_imp]
    exact ⟨retried, retries⟩
  failed := rest.failed

section Searches

variable {σ : Type} (reader : σ → String → Nat → σ × ChunkOutcome) {lines : Array String}
  {chunkSize start offset : Nat}

lemma count_newline_chunkOf {a b : Nat} (ab : a < b) (inside : b ≤ lines.size)
    (whole : ∀ l ∈ lines.toList, '\n' ∉ l.toList) :
    (chunkOf lines a b).toList.count '\n' + 1 = b - a := by
  have run := extract_ne_nil (L := lines.toList) ab (by simpa using inside)
  rw [chunkOf, Array.toList_extract, count_newline_intercalate _ run]
  · simp only [List.extract_eq_take_drop, List.length_take, List.length_drop, Array.length_toList]
    omega
  · intro l member
    exact whole l (List.mem_of_mem_drop (List.mem_of_mem_take member))

/-- An accepted partial read consumes lines `[start, start + n)`, with `n` at least one and at
most the window. -/
lemma consumed_readUpTo (offset : Nat) (whole : ∀ l ∈ lines.toList, '\n' ∉ l.toList)
    {stop read n : Nat}
    (lower : start < stop) (upper : stop ≤ lines.size)
    (accepted : linesConsumed (chunkOf lines start stop) read (stop - start) = .ok n) :
    0 < n ∧ n ≤ stop - start ∧
      ChunkCall.consumed ⟨chunkOf lines start stop, offset, .readUpTo read⟩ =
        lines.toList.extract start (start + n) := by
  have bounds := linesConsumed_bounds (by
    have := count_newline_chunkOf lower upper whole
    omega) accepted
  have window : (lines.toList.extract start stop).length = stop - start := by
    simp only [List.extract_eq_take_drop, List.length_take, List.length_drop, Array.length_toList]
    omega
  refine ⟨bounds.1, bounds.2, ?_⟩
  simp only [ChunkCall.consumed, textLines_chunkOf lower upper whole, window, accepted,
    List.extract_eq_take_drop, List.take_take]
  congr 1
  omega

/-- **One search.** A search for a window at line `start` that returns makes calls that offer
lines from `start` on, all retries but the last, at most `searchBound` of them; when it ends at
line `next`, its last call consumed lines `[start, next)`. -/
lemma readAt_recording (offset : Nat) (whole : ∀ l ∈ lines.toList, '\n' ∉ l.toList)
    (inside : start < lines.size) (sized : 0 < chunkSize) (s : List ChunkCall × σ) (size : Nat)
    (phase : WindowPhase) (positive : 0 < size) (capped : phase = .grow → size ≤ 2 * chunkSize) :
    ∀ r, readAt (recording reader) lines chunkSize start offset s size phase = some r →
      ∃ calls, r.1.1 = s.1 ++ calls ∧ Search lines start offset calls r.2 ∧
        calls.length ≤ searchBound (lines.size - start) chunkSize size phase := by
  fun_induction readAt (recording reader) lines chunkSize start offset s size phase with
  | case1 => rintro _ ⟨⟩
  | case2 s size phase fits stop chunk s' answer =>
    -- the whole window was read
    rintro _ ⟨⟩
    obtain ⟨lower, upper, -⟩ := window_bounds inside positive
    refine ⟨_, recording_log answer, Search.single lower upper ?_ (by simp), ?_⟩
    · intro next finished
      obtain rfl := Except.ok.inj finished
      exact ⟨rfl, lower, upper, textLines_chunkOf lower upper whole⟩
    · exact one_le_searchBound positive (by omega) capped
  | case3 s size phase fits stop used chunk s' read n accepted answer =>
    -- the reader read up to an offset the driver accepts
    rintro _ ⟨⟩
    obtain ⟨lower, upper, -⟩ := window_bounds inside positive
    obtain ⟨least, most, consumed⟩ := consumed_readUpTo offset whole lower upper accepted
    refine ⟨_, recording_log answer, Search.single lower upper ?_ (by simp), ?_⟩
    · intro next finished
      obtain rfl := Except.ok.inj finished
      exact ⟨rfl, by omega, by omega, consumed⟩
    · exact one_le_searchBound positive (by omega) capped
  | case4 s size phase fits stop used chunk s' read problems refused answer =>
    -- the read offset is refused, and the reading ends
    rintro _ ⟨⟩
    obtain ⟨lower, upper, -⟩ := window_bounds inside positive
    refine ⟨_, recording_log answer, Search.single lower upper ?_ ?_, ?_⟩
    · intro next finished
      simp at finished
    · intro reported failed
      obtain rfl := Except.error.inj failed
      exact linesConsumed_error_ne_nil refused
    · exact one_le_searchBound positive (by omega) capped
  | case5 s size fits stop used chunk s' retryOffset problems small answer ih =>
    -- shrinking reached one line: grow from `chunkSize` lines
    intro r ran
    obtain ⟨lower, upper, narrow⟩ := window_bounds inside positive
    have left : 0 < lines.size - start := Nat.sub_pos_of_lt inside
    obtain ⟨calls, log, search, count⟩ :=
      ih sized (fun _ => Nat.le_mul_of_pos_left chunkSize Nat.two_pos) r ran
    refine ⟨⟨chunk, offset, .retryAt retryOffset problems⟩ :: calls, ?_,
      Search.retry lower upper rfl search, ?_⟩
    · rw [log, recording_log answer, List.append_assoc, List.singleton_append]
    · rw [List.length_cons]
      exact (Nat.succ_le_succ count).trans (searchBound_shrink_grow positive left (narrow ▸ small))
  | case6 s size fits stop used chunk s' retryOffset problems large answer ih =>
    -- shrink by one line
    intro r ran
    obtain ⟨lower, upper, narrow⟩ := window_bounds inside positive
    have longer : 1 < min size (lines.size - start) :=
      narrow ▸ (Nat.lt_of_not_le large : 1 < min (start + size) lines.size - start)
    obtain ⟨calls, log, search, count⟩ :=
      ih (Nat.sub_pos_of_lt (Nat.lt_of_not_le large)) (fun never => nomatch never) r ran
    refine ⟨⟨chunk, offset, .retryAt retryOffset problems⟩ :: calls, ?_,
      Search.retry lower upper rfl search, ?_⟩
    · rw [log, recording_log answer, List.append_assoc, List.singleton_append]
    · rw [List.length_cons]
      rw [show used = min size (lines.size - start) from narrow] at count
      exact (Nat.succ_le_succ count).trans (searchBound_shrink longer)
  | case7 => rintro _ ⟨⟩
  | case8 s size fits stop used chunk s' retryOffset problems next checked limit answer =>
    -- growing is exhausted, and the reading ends
    rintro _ ⟨⟩
    obtain ⟨lower, upper, -⟩ := window_bounds inside positive
    refine ⟨_, recording_log answer, Search.single lower upper ?_ ?_, ?_⟩
    · intro next finished
      simp at finished
    · intro reported failed
      obtain rfl := Except.error.inj failed
      simp
    · exact one_le_searchBound positive (by omega) capped
  | case9 s size fits stop used chunk s' retryOffset problems next checked room answer ih =>
    -- grow by one line
    intro r ran
    obtain ⟨lower, upper, narrow⟩ := window_bounds inside positive
    have wider : next = min size (lines.size - start) + 1 := congrArg (· + 1) narrow
    have grown : start + next ≤ lines.size ∧ next ≤ chunkSize * 2 := by
      simpa only [Bool.or_eq_true, decide_eq_true_eq, not_or, Nat.not_lt] using room
    obtain ⟨calls, log, search, count⟩ :=
      ih (Nat.succ_pos _) (fun _ => Nat.mul_comm chunkSize 2 ▸ grown.2) r ran
    refine ⟨⟨chunk, offset, .retryAt retryOffset problems⟩ :: calls, ?_,
      Search.retry lower upper rfl search, ?_⟩
    · rw [log, recording_log answer, List.append_assoc, List.singleton_append]
    · rw [List.length_cons]
      rw [wider] at count grown
      exact (Nat.succ_le_succ count).trans (searchBound_grow grown.1 grown.2)

/-- Recording the calls changes neither the reader's state nor the end of a search. -/
lemma readAt_recording_state (s : List ChunkCall × σ) (size : Nat) (phase : WindowPhase) :
    (readAt (recording reader) lines chunkSize start offset s size phase).map
        (fun r => (r.1.2, r.2)) =
      readAt reader lines chunkSize start offset s.2 size phase := by
  fun_induction readAt (recording reader) lines chunkSize start offset s size phase with
  | case1 s size phase overflow =>
    rw [readAt, if_pos overflow]
    rfl
  | case2 s size phase fits stop chunk s' answer =>
    conv_rhs => rw [readAt, if_neg fits]
    dsimp only
    rw [recording_answer answer]
    rfl
  | case3 s size phase fits stop used chunk s' read n accepted answer =>
    conv_rhs => rw [readAt, if_neg fits]
    dsimp only
    rw [recording_answer answer]
    dsimp only
    rw [accepted]
    rfl
  | case4 s size phase fits stop used chunk s' read problems refused answer =>
    conv_rhs => rw [readAt, if_neg fits]
    dsimp only
    rw [recording_answer answer]
    dsimp only
    rw [refused]
    rfl
  | case5 s size fits stop used chunk s' retryOffset problems small answer ih =>
    conv_rhs => rw [readAt, if_neg fits]
    dsimp only
    rw [recording_answer answer]
    dsimp only
    rw [if_pos small]
    exact ih
  | case6 s size fits stop used chunk s' retryOffset problems large answer ih =>
    conv_rhs => rw [readAt, if_neg fits]
    dsimp only
    rw [recording_answer answer]
    dsimp only
    rw [if_neg large]
    exact ih
  | case7 s size fits stop used chunk s' retryOffset problems next overflow answer =>
    conv_rhs => rw [readAt, if_neg fits]
    dsimp only
    rw [recording_answer answer]
    dsimp only
    rw [if_pos overflow]
    rfl
  | case8 s size fits stop used chunk s' retryOffset problems next checked limit answer =>
    conv_rhs => rw [readAt, if_neg fits]
    dsimp only
    rw [recording_answer answer]
    dsimp only
    rw [if_neg checked, if_pos limit]
    rfl
  | case9 s size fits stop used chunk s' retryOffset problems next checked room answer ih =>
    conv_rhs => rw [readAt, if_neg fits]
    dsimp only
    rw [recording_answer answer]
    dsimp only
    rw [if_neg checked, if_neg room]
    exact ih

/-- **A search returns** when the text's lines and the window size fit a machine word: every
window it offers ends by `max (start + chunkSize) lines.size`, and a growing window inside the
text holds at least `chunkSize` lines, so the limit `2 * chunkSize` it is checked against stays
below the lines plus the window size. -/
lemma readAt_isSome (st : σ) (inside : start < lines.size) (sized : 0 < chunkSize)
    (fits : lines.size + chunkSize ≤ wordSize) (size : Nat) (phase : WindowPhase)
    (within : start + size ≤ max (start + chunkSize) lines.size)
    (growing : phase = .grow → chunkSize ≤ size) :
    (readAt reader lines chunkSize start offset st size phase).isSome := by
  fun_induction readAt reader lines chunkSize start offset st size phase with
  | case1 s size phase overflow => omega
  | case2 | case3 | case4 | case8 => rfl
  | case5 s size fits' stop used chunk s' retryOffset problems small answer ih =>
    exact ih (by omega) (fun _ => le_rfl)
  | case6 s size fits' stop used chunk s' retryOffset problems large answer ih =>
    have used_eq : used = min (start + size) lines.size - start := rfl
    exact ih (by omega) (fun never => nomatch never)
  | case7 s size fits' stop used chunk s' retryOffset problems next overflow answer =>
    -- a growing window that still fits in the text is not cut by its end, so it holds `size` lines
    have used_eq : used = min (start + size) lines.size - start := rfl
    have next_eq : next = used + 1 := rfl
    have := growing rfl
    omega
  | case9 s size fits' stop used chunk s' retryOffset problems next checked room answer ih =>
    have used_eq : used = min (start + size) lines.size - start := rfl
    have next_eq : next = used + 1 := rfl
    have grown : start + next ≤ lines.size := by
      simp only [Bool.or_eq_true, decide_eq_true_eq, not_or, Nat.not_lt] at room
      exact room.1
    have := growing rfl
    exact ih (by omega) (fun _ => by omega)

end Searches

/-! ## A whole reading -/

/-- Consecutive calls: after a retry the offset stays, after an accepted window it moves
forward. -/
def ChunkCall.Advance (c d : ChunkCall) : Prop :=
  if c.outcome.isRetry then d.offset = c.offset else c.offset < d.offset

lemma ChunkCall.consumed_of_isRetry {c : ChunkCall} (retried : c.outcome.isRetry = true) :
    c.consumed = [] := by
  rcases c with ⟨chunk, offset, _ | _ | _⟩ <;> simp_all [ChunkOutcome.isRetry, ChunkCall.consumed]

/-- The calls of one search advance: they offer the same line, and all but the last retry. -/
lemma isChain_search {tried : List ChunkCall} {final : ChunkCall} {offset : Nat}
    (retries : ∀ c ∈ tried, c.outcome.isRetry = true)
    (same : ∀ c ∈ tried ++ [final], c.offset = offset) :
    (tried ++ [final]).IsChain ChunkCall.Advance := by
  induction tried with
  | nil => exact .singleton final
  | cons c tried ih =>
    have rest := ih (fun d member => retries d (List.mem_cons_of_mem c member))
      (fun d member => same d (List.mem_cons_of_mem c member))
    rw [List.cons_append, List.isChain_cons]
    refine ⟨fun d first => ?_, rest⟩
    have later : d ∈ tried ++ [final] := List.mem_of_mem_head? first
    simp only [ChunkCall.Advance, retries c List.mem_cons_self, if_true]
    rw [same d (List.mem_cons_of_mem c later), same c List.mem_cons_self]

/-- Line starts lie further into the text for later lines. -/
lemma linesBytes_lt {lines : Array String} {a b : Nat} (ab : a < b) (inside : b ≤ lines.size) :
    linesBytes lines 0 a < linesBytes lines 0 b := by
  rw [← linesBytes_add (Nat.zero_le a) ab.le]
  have := linesBytes_pos ab inside
  omega

/-- What reading from line `cursor` on records, when it ends with `problems`: every call offers
whole lines from `cursor` on at the byte where they start, no line start is offered more than
`2 * chunkSize + 1` windows, consecutive calls advance, and a reading without problems consumes
the lines from `cursor` on, in order. -/
structure Run (lines : Array String) (chunkSize cursor : Nat) (calls : List ChunkCall)
    (problems : List Problem) : Prop where
  windows : ∀ c ∈ calls, ∃ start stop, cursor ≤ start ∧ start < stop ∧ stop ≤ lines.size ∧
    c.offset = linesBytes lines 0 start ∧ c.chunk = chunkOf lines start stop
  retries : ∀ o, calls.countP (·.offset == o) ≤ 2 * chunkSize + 1
  advances : calls.IsChain ChunkCall.Advance
  bounded : calls.length ≤ (lines.size - cursor) * (2 * chunkSize + 1)
  tiles : problems = [] → calls.flatMap ChunkCall.consumed = lines.toList.drop cursor

/-- Past the last line nothing is read. -/
lemma Run.nil {lines : Array String} {chunkSize cursor : Nat} (past : lines.size ≤ cursor) :
    Run lines chunkSize cursor [] [] where
  windows := by simp
  retries := by simp
  advances := .nil
  bounded := by simp
  tiles := by simp [past]

section Steps

variable {lines : Array String} {chunkSize cursor offset : Nat} {found : List ChunkCall}

/-- The calls of a search at `cursor` all offer whole lines from `cursor`. -/
lemma Search.windows_from {result : Except (List Problem) Nat}
    (search : Search lines cursor offset found result) (at_ : offset = linesBytes lines 0 cursor) :
    ∀ c ∈ found, ∃ start stop, cursor ≤ start ∧ start < stop ∧ stop ≤ lines.size ∧
      c.offset = linesBytes lines 0 start ∧ c.chunk = chunkOf lines start stop := by
  intro c member
  obtain ⟨same, stop, lower, upper, chunk⟩ := search.windows c member
  exact ⟨cursor, stop, le_rfl, lower, upper, same.trans at_, chunk⟩

/-- A failed search ends the reading. -/
lemma Run.failed {problems : List Problem}
    (search : Search lines cursor offset found (.error problems))
    (count : found.length ≤ 2 * chunkSize + 1) (inside : cursor < lines.size)
    (at_ : offset = linesBytes lines 0 cursor) :
    Run lines chunkSize cursor found problems where
  windows := search.windows_from at_
  retries o := (List.countP_le_length).trans count
  advances := by
    obtain ⟨tried, final, rfl, retries, -⟩ := search.last
    exact isChain_search retries fun c member => (search.windows c member).1
  bounded := by
    have : 1 ≤ lines.size - cursor := by omega
    calc found.length ≤ 2 * chunkSize + 1 := count
      _ = 1 * (2 * chunkSize + 1) := (Nat.one_mul _).symm
      _ ≤ (lines.size - cursor) * (2 * chunkSize + 1) := Nat.mul_le_mul_right _ this
  tiles := fun none => absurd none (search.failed problems rfl)

/-- A search that accepts a window, then the reading from the first line it did not consume. -/
lemma Run.cons {next : Nat} {calls : List ChunkCall} {problems : List Problem}
    (search : Search lines cursor offset found (.ok next))
    (count : found.length ≤ 2 * chunkSize + 1) (at_ : offset = linesBytes lines 0 cursor)
    (rest : Run lines chunkSize next calls problems) :
    Run lines chunkSize cursor (found ++ calls) problems := by
  obtain ⟨tried, final, rfl, retried, accepted⟩ := search.last
  obtain ⟨kept, lower, upper, consumed⟩ := accepted next rfl
  have same : ∀ c ∈ tried ++ [final], c.offset = offset := fun c member =>
    (search.windows c member).1
  -- every later call offers a line past `cursor`, so at a larger offset
  have later : ∀ c ∈ calls, offset < c.offset := by
    intro c member
    obtain ⟨start, stop, from_, lower', upper', at', -⟩ := rest.windows c member
    rw [at', at_]
    exact linesBytes_lt (by omega) (by omega)
  refine ⟨?_, ?_, ?_, ?_, ?_⟩
  · intro c member
    rcases List.mem_append.mp member with mine | theirs
    · exact search.windows_from at_ c mine
    · obtain ⟨start, stop, from_, rest'⟩ := rest.windows c theirs
      exact ⟨start, stop, by omega, rest'⟩
  · intro o
    rw [List.countP_append]
    by_cases here : offset = o
    · have none : calls.countP (·.offset == o) = 0 := by
        rw [List.countP_eq_zero]
        intro c member
        have := later c member
        simp only [beq_iff_eq]
        omega
      have := (List.countP_le_length (p := (·.offset == o))).trans count
      omega
    · have none : (tried ++ [final]).countP (·.offset == o) = 0 := by
        rw [List.countP_eq_zero]
        intro c member
        simp only [beq_iff_eq, same c member]
        exact here
      have := rest.retries o
      omega
  · refine List.IsChain.append (isChain_search retried same) rest.advances ?_
    intro x last y first
    simp only [List.getLast?_append, List.getLast?_singleton, Option.some_or,
      Option.mem_def, Option.some.injEq] at last
    subst last
    have forward : final.offset < y.offset := by
      rw [same final (by simp)]
      exact later y (List.mem_of_mem_head? first)
    simpa [ChunkCall.Advance, kept] using forward
  · -- one search, then at most `2 * chunkSize + 1` calls for each line from `next` on
    have split : (lines.size - cursor) * (2 * chunkSize + 1) =
        (lines.size - next) * (2 * chunkSize + 1) + (next - cursor) * (2 * chunkSize + 1) := by
      rw [← Nat.add_mul]
      congr 1
      omega
    have one : 2 * chunkSize + 1 ≤ (next - cursor) * (2 * chunkSize + 1) :=
      Nat.le_mul_of_pos_left _ (by omega)
    have := rest.bounded
    rw [List.length_append, split]
    omega
  · intro none
    have nothing : tried.flatMap ChunkCall.consumed = [] :=
      List.flatMap_eq_nil_iff.mpr fun c member => ChunkCall.consumed_of_isRetry (retried c member)
    have after : lines.toList.drop next = (lines.toList.drop cursor).drop (next - cursor) := by
      rw [List.drop_drop]
      congr 1
      omega
    rw [List.flatMap_append, List.flatMap_append, nothing, List.flatMap_singleton, consumed,
      rest.tiles none, after, List.nil_append, List.extract_eq_take_drop, List.take_append_drop]

end Steps

section Readings

variable {σ : Type} (reader : σ → String → Nat → σ × ChunkOutcome) {lines : Array String}
  {chunkSize : Nat}

/-- **A reading.** Reading from line `cursor`, at the byte where that line starts, records a
`Run` when it returns: one search per line start it reaches, each accepting a window that
consumes at least one line. -/
lemma readFrom_recording (whole : ∀ l ∈ lines.toList, '\n' ∉ l.toList) (sized : 0 < chunkSize)
    (s : List ChunkCall × σ) (cursor offset : Nat) (at_ : offset = linesBytes lines 0 cursor) :
    ∀ r, readFrom (recording reader) lines chunkSize s cursor offset = some r →
      ∃ calls, r.1.1 = s.1 ++ calls ∧ Run lines chunkSize cursor calls r.2 := by
  fun_induction readFrom (recording reader) lines chunkSize s cursor offset with
  | case1 s cursor offset inside s' next searched advance ih =>
    intro r ran
    obtain ⟨found, log, search, count⟩ := readAt_recording reader offset whole inside
      sized s chunkSize .shrink sized (fun never => nomatch never) _ searched
    rw [searchBound_start] at count
    -- the accepted window consumed at least one line, so the cursor moves to `next`
    obtain ⟨tried, final, -, -, accepted⟩ := search.last
    obtain ⟨-, lower, upper, -⟩ := accepted next rfl
    have advanced : advance = next := by
      have : advance = max next (cursor + 1) := rfl
      omega
    clear_value advance
    subst advanced
    obtain ⟨calls, log', run⟩ :=
      ih (by rw [at_, linesBytes_add (Nat.zero_le cursor) lower.le]) r ran
    exact ⟨found ++ calls, by rw [log', log, List.append_assoc], Run.cons search count at_ run⟩
  | case2 s cursor offset inside s' problems searched =>
    rintro _ ⟨⟩
    obtain ⟨found, log, search, count⟩ := readAt_recording reader offset whole inside
      sized s chunkSize .shrink sized (fun never => nomatch never) _ searched
    rw [searchBound_start] at count
    exact ⟨found, log, Run.failed search count inside at_⟩
  | case3 => rintro _ ⟨⟩
  | case4 s cursor offset past =>
    rintro _ ⟨⟩
    exact ⟨[], by simp, Run.nil (by omega)⟩

/-- Recording the calls changes neither the reader's state nor the end of a reading. -/
lemma readFrom_recording_state (s : List ChunkCall × σ) (cursor offset : Nat) :
    (readFrom (recording reader) lines chunkSize s cursor offset).map (fun r => (r.1.2, r.2)) =
      readFrom reader lines chunkSize s.2 cursor offset := by
  fun_induction readFrom (recording reader) lines chunkSize s cursor offset with
  | case1 s cursor offset inside s' next searched advance ih =>
    have plain : some (s'.2, Except.ok next) =
        readAt reader lines chunkSize cursor offset s.2 chunkSize .shrink := by
      rw [← readAt_recording_state, searched]
      rfl
    conv_rhs => rw [readFrom, if_pos inside, ← plain]
    exact ih
  | case2 s cursor offset inside s' problems searched =>
    have plain : some (s'.2, Except.error problems) =
        readAt reader lines chunkSize cursor offset s.2 chunkSize .shrink := by
      rw [← readAt_recording_state, searched]
      rfl
    conv_rhs => rw [readFrom, if_pos inside, ← plain]
    rfl
  | case3 s cursor offset inside searched =>
    have plain : none = readAt reader lines chunkSize cursor offset s.2 chunkSize .shrink := by
      rw [← readAt_recording_state, searched]
      rfl
    conv_rhs => rw [readFrom, if_pos inside, ← plain]
    rfl
  | case4 s cursor offset past =>
    conv_rhs => rw [readFrom, if_neg past]
    rfl

/-- A reading returns when the text's lines and the window size fit a machine word. -/
lemma readFrom_isSome (sized : 0 < chunkSize) (fits : lines.size + chunkSize ≤ wordSize)
    (st : σ) (cursor offset : Nat) :
    (readFrom reader lines chunkSize st cursor offset).isSome := by
  fun_induction readFrom reader lines chunkSize st cursor offset with
  | case1 s cursor offset inside s' next searched advance ih => exact ih
  | case2 | case4 => rfl
  | case3 s cursor offset inside searched =>
    have search : (readAt reader lines chunkSize cursor offset s chunkSize .shrink).isSome :=
      readAt_isSome reader s inside sized fits chunkSize .shrink (by omega)
        (fun never => nomatch never)
    rw [searched] at search
    cases search

end Readings

/-! ## The driver -/

/-- What the driver promises about the calls it makes while reading `input` in windows of
`chunkSize` lines, and about the problems it ends with. -/
structure ChunkedReading (input : String) (chunkSize : Nat) (calls : List ChunkCall)
    (problems : List Problem) : Prop where
  /-- Every chunk is a run of whole lines of the input, offered at the byte where it starts. -/
  slices : ∀ c ∈ calls, IsLineSlice input c.chunk c.offset
  /-- No line start is offered more than `2 * max chunkSize 1 + 1` windows. -/
  retries : ∀ o, calls.countP (·.offset == o) ≤ 2 * max chunkSize 1 + 1
  /-- After a retry the offset stays; after an accepted window it moves forward. -/
  advances : calls.IsChain ChunkCall.Advance
  /-- At most `2 * max chunkSize 1 + 1` calls for each line of the input. -/
  bounded : calls.length ≤ (textLines input).size * (2 * max chunkSize 1 + 1)
  /-- Without problems, the accepted windows consume the input's lines in order, each once. -/
  tiles : problems = [] → input ≠ "" →
    calls.flatMap ChunkCall.consumed = (textLines input).toList

lemma ChunkedReading.of_run {input : String} {chunkSize : Nat} {calls : List ChunkCall}
    {problems : List Problem} (run : Run (textLines input) (max chunkSize 1) 0 calls problems) :
    ChunkedReading input chunkSize calls problems where
  slices c member := by
    obtain ⟨start, stop, -, lower, upper, at_, chunk⟩ := run.windows c member
    rw [at_, chunk]
    exact isLineSlice_chunkOf lower upper
  retries := run.retries
  advances := run.advances
  bounded := by simpa using run.bounded
  tiles none _ := by simpa using run.tiles none

/-- **The driver returns** on every text whose lines, together with the window size, fit a
machine word. -/
lemma processInChunks_isSome {σ : Type} (reader : σ → String → Nat → σ × ChunkOutcome)
    (input : String) (chunkSize : Nat) (init : σ)
    (fits : (textLines input).size + max chunkSize 1 ≤ wordSize) :
    (processInChunks reader input chunkSize init).isSome := by
  unfold processInChunks
  split
  · rfl
  · exact readFrom_isSome reader (by omega) fits init 0 0

/-- Recording the calls changes neither the reader's state nor the end of a reading, nor
whether it panics. -/
lemma processInChunks_recording_state {σ : Type} (reader : σ → String → Nat → σ × ChunkOutcome)
    (input : String) (chunkSize : Nat) (s : List ChunkCall × σ) :
    (processInChunks (recording reader) input chunkSize s).map (fun r => (r.1.2, r.2)) =
      processInChunks reader input chunkSize s.2 := by
  unfold processInChunks
  split
  · rfl
  · exact readFrom_recording_state reader s 0 0

/-- **The chunk driver.** For every reader, every text and every window size whose sum with the
number of lines fits a machine word, the driver returns, and the calls it makes (recorded by
`recording`, which leaves the reader's state and the problems as they are) offer whole lines at
their byte offsets, at most `2 * max chunkSize 1 + 1` windows at any line start, move forward
after every accepted window, and, when no problem ends the reading, consume every line of the
text once, in order. -/
theorem processInChunks_windows {σ : Type} (reader : σ → String → Nat → σ × ChunkOutcome)
    (input : String) (chunkSize : Nat) (init : σ)
    (fits : (textLines input).size + max chunkSize 1 ≤ wordSize) :
    ∃ final problems calls, processInChunks reader input chunkSize init = some (final, problems) ∧
      processInChunks (recording reader) input chunkSize ([], init) =
        some ((calls, final), problems) ∧
      ChunkedReading input chunkSize calls problems := by
  obtain ⟨⟨⟨calls, final⟩, problems⟩, recorded⟩ :=
    Option.isSome_iff_exists.mp (processInChunks_isSome (recording reader) input chunkSize ([], init) fits)
  have plain := processInChunks_recording_state reader input chunkSize ([], init)
  rw [recorded] at plain
  refine ⟨final, problems, calls, plain.symm, recorded, ?_⟩
  by_cases empty : input.isEmpty = true
  · -- an empty text is not read at all
    rw [processInChunks, if_pos empty] at recorded
    cases recorded
    refine ⟨by simp, by simp, .nil, by simp, fun _ filled => ?_⟩
    exact absurd (by simpa using empty) filled
  · rw [processInChunks, if_neg empty] at recorded
    obtain ⟨calls', log, run⟩ := readFrom_recording reader
      (fun l member => newline_not_mem_of_mem_textLines member) (by omega : 0 < max chunkSize 1)
      ([], init) 0 0 (by simp [linesBytes_eq_sum]) _ recorded
    obtain rfl : calls = calls' := by simpa using log
    exact ChunkedReading.of_run run

/-- The two-line text `"a\nb"`, read at windows of two lines by a reader that reads every window
up to its first byte. -/
theorem processInChunks_windows_two_lines :
    (textLines "a\nb").size + max 2 1 ≤ wordSize ∧
      ∃ final problems calls,
        processInChunks (fun (k : Nat) _ _ => (k + 1, ChunkOutcome.readUpTo 0)) "a\nb" 2 0 =
          some (final, problems) ∧
        processInChunks (recording fun (k : Nat) _ _ => (k + 1, ChunkOutcome.readUpTo 0)) "a\nb" 2
          ([], 0) = some ((calls, final), problems) ∧
        ChunkedReading "a\nb" 2 calls problems :=
  have fits : (textLines "a\nb").size + max 2 1 ≤ wordSize := by unfold wordSize; decide
  ⟨fits, processInChunks_windows _ "a\nb" 2 0 fits⟩

/-! ## Overflow at the largest window size -/

section Overflow

variable {σ : Type} (reader : σ → String → Nat → σ × ChunkOutcome) {lines : Array String}
  {chunkSize : Nat}

/-- A window whose end overflows a machine word makes the program panic. -/
lemma readAt_overflow {start offset size : Nat} (st : σ) (phase : WindowPhase)
    (overflow : wordSize ≤ start + size) :
    readAt reader lines chunkSize start offset st size phase = none := by
  rw [readAt, if_pos overflow]

/-- A window read up to an offset the driver places ends the search at the line after it. -/
lemma readAt_readUpTo {start offset size read n : Nat} {st st' : σ} (phase : WindowPhase)
    (fits : start + size < wordSize)
    (answer : reader st (chunkOf lines start (min (start + size) lines.size)) offset =
      (st', .readUpTo read))
    (placed : linesConsumed (chunkOf lines start (min (start + size) lines.size)) read
      (min (start + size) lines.size - start) = .ok n) :
    readAt reader lines chunkSize start offset st size phase = some (st', .ok (start + n)) := by
  rw [readAt, if_neg (Nat.not_le_of_lt fits)]
  dsimp only
  rw [answer]
  dsimp only
  rw [placed]

/-- After a search that ends at line `next`, the reading goes on from there. -/
lemma readFrom_ok {cursor offset next : Nat} {st st' : σ} (inside : cursor < lines.size)
    (searched : readAt reader lines chunkSize cursor offset st chunkSize .shrink =
      some (st', .ok next)) :
    readFrom reader lines chunkSize st cursor offset =
      readFrom reader lines chunkSize st' (max next (cursor + 1))
        (offset + linesBytes lines cursor (max next (cursor + 1))) := by
  rw [readFrom, if_pos inside, searched]

/-- A search that panics makes the reading panic. -/
lemma readFrom_none {cursor offset : Nat} {st : σ} (inside : cursor < lines.size)
    (searched : readAt reader lines chunkSize cursor offset st chunkSize .shrink = none) :
    readFrom reader lines chunkSize st cursor offset = none := by
  rw [readFrom, if_pos inside, searched]

/-- A text of two lines or more is not empty. -/
lemma isEmpty_eq_false_of_lines {input : String} (lines_two : 1 < (textLines input).size) :
    input.isEmpty = false := by
  cases filled : input.isEmpty with
  | false => rfl
  | true =>
    rw [String.isEmpty_iff.mp filled] at lines_two
    simp [textLines] at lines_two

/-- **The driver panics at the largest window size** on a text of two lines or more whose first
window, the whole text, the reader reads only in part: the search at the next line computes an
end past `wordSize`. -/
theorem processInChunks_overflows (input : String) (init st : σ) (read n : Nat)
    (small : (textLines input).size < wordSize)
    (first : reader init input 0 = (st, .readUpTo read))
    (consumed : linesConsumed input read (textLines input).size = .ok n)
    (inPart : max n 1 < (textLines input).size) :
    processInChunks reader input (wordSize - 1) init = none := by
  have large : 2 ≤ wordSize := by unfold wordSize; decide
  have all_lines : min (0 + (wordSize - 1)) (textLines input).size = (textLines input).size := by
    omega
  have whole : chunkOf (textLines input) 0 (textLines input).size = input := by
    rw [chunkOf, Array.extract_size, intercalate_textLines]
  -- the first search takes in the whole text and stops after line `n`
  have search : readAt reader (textLines input) (wordSize - 1) 0 0 init (wordSize - 1) .shrink =
      some (st, .ok (0 + n)) :=
    readAt_readUpTo reader .shrink (by omega) (by rw [all_lines, whole]; exact first)
      (by rw [all_lines, whole, Nat.sub_zero]; exact consumed)
  rw [processInChunks, if_neg (by rw [isEmpty_eq_false_of_lines (by omega)]; decide),
    show max (wordSize - 1) 1 = wordSize - 1 by omega]
  dsimp only
  rw [readFrom_ok reader (by omega) search, Nat.zero_add, Nat.zero_add]
  exact readFrom_none reader inPart (readAt_overflow reader st .shrink (by omega))

/-- On `"a\nb"`, a reader that reads every window up to its first byte makes the driver panic
at the largest window size. -/
theorem processInChunks_overflows_two_lines :
    processInChunks (fun (k : Nat) _ _ => (k + 1, ChunkOutcome.readUpTo 0)) "a\nb"
      (wordSize - 1) 0 = none :=
  processInChunks_overflows _ "a\nb" 0 1 0 1 (by unfold wordSize; decide) rfl (by decide)
    (by decide)

end Overflow

end Schemata
