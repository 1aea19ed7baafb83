import Mathlib
import Schemata.Render.Summary
import Schemata.Proofs.DisplayWidth

/-!
# Columns of a summary line up

A column line of a summary holds the indent, the change marker and four cells (name, type,
flags, default), each padded with blanks to the widest cell of its column in the table and set
apart by a gap; trailing blanks are then cut from the line.

Main statement (`render_cells_line_up`): when the gap is at least one blank, every column has
its line in the summary, and each of its cells that holds a non-blank character is shown there,
up to its own trailing blanks, after a text as wide as the indent, the marker and the widths and
gaps of the cells before it. It rests on the display width adding up across blanks
(`textWidth_append_blank`): a padded cell and the gap after it always end in a blank, so no
cell meets the next.

Without a gap a cell as wide as its column does meet the next one, and the two may join into
one glyph; and a cell of blanks at the end of a line is cut with the line's trailing blanks
(`render_cells_misaligned`).
-/

namespace Schemata

namespace Unicode

/-! ## Trailing blanks -/

/-- A text cut where a non-blank character still follows keeps its first part whole. -/
lemma dropTrailingBlanks_append {a b : List Char} (shown : dropTrailingBlanks b ≠ []) :
    dropTrailingBlanks (a ++ b) = a ++ dropTrailingBlanks b := by
  unfold dropTrailingBlanks dropBlanks at *
  rw [List.reverse_append, List.dropWhile_append]
  have kept : (List.dropWhile isWhiteSpace b.reverse).isEmpty = false := by
    simpa using shown
  rw [kept, if_neg Bool.false_ne_true, List.reverse_append, List.reverse_reverse]

/-- Trailing blanks cut from a longer text leave what they leave of its first part, and more. -/
lemma dropTrailingBlanks_append_prefix (a b : List Char) :
    ∃ r, dropTrailingBlanks (a ++ b) = dropTrailingBlanks a ++ r := by
  by_cases shown : dropTrailingBlanks b = []
  · refine ⟨[], ?_⟩
    unfold dropTrailingBlanks dropBlanks at *
    rw [List.reverse_append, List.dropWhile_append]
    have gone : (List.dropWhile isWhiteSpace b.reverse).isEmpty = true := by
      simpa using shown
    rw [gone, if_pos rfl, List.append_nil]
  · -- `a` is what is left of it and the blanks cut from its end
    refine ⟨(a.reverse.takeWhile isWhiteSpace).reverse ++ dropTrailingBlanks b, ?_⟩
    rw [dropTrailingBlanks_append shown, ← List.append_assoc]
    congr 1
    unfold dropTrailingBlanks dropBlanks
    rw [← List.reverse_append, List.takeWhile_append_dropWhile, List.reverse_reverse]

lemma trimEnd_append {a b : String} (shown : trimEnd b ≠ "") :
    trimEnd (a ++ b) = a ++ trimEnd b := by
  have chars : dropTrailingBlanks b.toList ≠ [] := by
    simpa [trimEnd, ← String.toList_inj] using shown
  rw [trimEnd, trimEnd, String.toList_append, dropTrailingBlanks_append chars,
    ← String.toList_inj]
  simp

lemma trimEnd_append_prefix (a b : String) : ∃ r, trimEnd (a ++ b) = trimEnd a ++ r := by
  obtain ⟨r, split⟩ := dropTrailingBlanks_append_prefix a.toList b.toList
  refine ⟨String.ofList r, ?_⟩
  rw [trimEnd, trimEnd, String.toList_append, split, ← String.toList_inj]
  simp

end Unicode

namespace SummaryStyle

open Unicode

/-! ## Blanks and padding -/

lemma spaces_add (m n : Nat) : spaces (m + n) = spaces m ++ spaces n := by
  rw [← String.toList_inj]
  simp only [spaces, String.toList_append, String.toList_ofList, List.replicate_add]

@[simp] lemma textWidth_spaces (n : Nat) : textWidth (spaces n) = n := by
  have := textWidth_blanks_append n ""
  rwa [String.append_empty, textWidth_empty] at this

/-- Blanks between two texts: the widths add up. -/
lemma textWidth_spaces_between (a b : String) (n : Nat) :
    textWidth (a ++ spaces (n + 1) ++ b) = textWidth a + (n + 1) + textWidth b := by
  have blank : a ++ spaces (n + 1) ++ b = a ++ " " ++ (spaces n ++ b) := by
    rw [Nat.add_comm, spaces_add, show spaces 1 = " " from rfl]
    simp only [String.append_assoc]
  rw [blank, textWidth_append_blank, spaces, textWidth_blanks_append]
  omega

/-- A cell padded to a width of at least its own, and a gap after it: the two widths. -/
lemma textWidth_pad_spaces (cell : String) {w : Nat} (fits : textWidth cell ≤ w) {gap : Nat}
    (spaced : 0 < gap) (rest : String) :
    textWidth (pad cell w ++ spaces gap ++ rest) = w + gap + textWidth rest := by
  obtain ⟨g, rfl⟩ : ∃ g, gap = g + 1 := ⟨gap - 1, by omega⟩
  have joined : pad cell w ++ spaces (g + 1) ++ rest =
      cell ++ spaces ((w - textWidth cell + g) + 1) ++ rest := by
    rw [pad, show w - textWidth cell + g + 1 = (w - textWidth cell) + (g + 1) from rfl,
      spaces_add (w - textWidth cell) (g + 1)]
    simp only [String.append_assoc]
  rw [joined, textWidth_spaces_between]
  omega

/-! ## Cells set apart by a gap -/

/-- **Where a cell starts.** In cells padded to their widths and set apart by a gap of at least
one blank, the `k`-th cell comes after a text as wide as the widths and gaps of the cells
before it. -/
lemma intercalate_pad_eq {gap : Nat} (spaced : 0 < gap) :
    ∀ (row : List String) (widths : List Nat) (k : Nat), k < min row.length widths.length →
      (∀ j < k, textWidth (row.getD j "") ≤ widths.getD j 0) →
      ∃ P rest, (spaces gap).intercalate ((row.zip widths).map fun (cell, w) => pad cell w) =
          P ++ (row.getD k "" ++ rest) ∧
        textWidth P = ((widths.take k).map (· + gap)).sum
  | [], _, _, hk, _ => by simp at hk
  | _ :: _, [], _, hk, _ => by simp at hk
  | cell :: row, w :: widths, 0, _, _ => by
    rw [List.zip_cons_cons, List.map_cons]
    dsimp only
    by_cases last : (row.zip widths).map (fun (cell, w) => pad cell w) = []
    · refine ⟨"", spaces (w - textWidth cell), ?_, rfl⟩
      rw [last, String.intercalate_singleton, pad]
      simp
    · refine ⟨"", spaces (w - textWidth cell) ++ spaces gap ++ (spaces gap).intercalate
        ((row.zip widths).map fun (cell, w) => pad cell w), ?_, rfl⟩
      rw [String.intercalate_cons_of_ne_nil last, pad]
      simp only [String.append_assoc, String.empty_append, List.getD_cons_zero]
  | cell :: row, w :: widths, k + 1, hk, fits => by
    have later : k < min row.length widths.length := by simp at hk ⊢; omega
    obtain ⟨P, rest, split, width⟩ := intercalate_pad_eq spaced row widths k later
      fun j hj => fits (j + 1) (by omega)
    have first : textWidth cell ≤ w := fits 0 (by omega)
    have nonempty : (row.zip widths).map (fun (cell, w) => pad cell w) ≠ [] := by
      simp only [ne_eq, List.map_eq_nil_iff, List.zip_eq_nil_iff, not_or]
      constructor <;> rintro rfl <;> simp at later
    refine ⟨pad cell w ++ spaces gap ++ P, rest, ?_, ?_⟩
    · rw [List.zip_cons_cons, List.map_cons, String.intercalate_cons_of_ne_nil nonempty, split]
      simp only [String.append_assoc, List.getD_cons_succ]
    · rw [textWidth_pad_spaces cell first spaced, width, List.take_succ_cons, List.map_cons,
        List.sum_cons]

/-! ## A column line -/

/-- A marker that is empty or ends in a blank adds its own width to what follows it. -/
lemma textWidth_marker_append {marker : String}
    (blankEnd : marker = "" ∨ ∃ m, marker = m ++ " ") (P : String) : textWidth (marker ++ P) = textWidth marker + textWidth P := by
  rcases blankEnd with rfl | ⟨m, rfl⟩
  · simp
  · have alone := textWidth_append_blank m ""
    rw [String.append_empty, textWidth_empty] at alone
    rw [textWidth_append_blank, alone]

/-- **Where a cell starts in a column line.** With a gap of at least one blank, a cell that
holds a non-blank character is shown, up to its trailing blanks, after a text as wide as the
indent, the marker, and the widths and gaps of the cells before it. -/
lemma columnLine_eq (style : SummaryStyle) {marker : String}
    (blankEnd : marker = "" ∨ ∃ m, marker = m ++ " ") (widths : List Nat) (row : List String)
    {k : Nat} (hk : k < min row.length widths.length)
    (fits : ∀ j < k, textWidth (row.getD j "") ≤ widths.getD j 0) (spaced : 0 < style.gap)
    (shown : trimEnd (row.getD k "") ≠ "") :
    ∃ P rest, columnLine style marker widths row = P ++ trimEnd (row.getD k "") ++ rest ∧
      textWidth P =
        style.indent + textWidth marker + ((widths.take k).map (· + style.gap)).sum := by
  obtain ⟨P, rest, split, width⟩ := intercalate_pad_eq spaced row widths k hk fits
  obtain ⟨r, trimmed⟩ := trimEnd_append_prefix (row.getD k "") rest
  refine ⟨spaces style.indent ++ marker ++ P, r, ?_, ?_⟩
  · -- the cell keeps a non-blank character, so the blanks cut from the line end after it
    have kept : trimEnd (row.getD k "" ++ rest) ≠ "" := by
      rw [trimmed]
      intro empty
      exact shown (String.append_eq_empty_iff.mp empty).1
    rw [columnLine, split, ← String.append_assoc, trimEnd_append kept, trimmed]
    simp only [String.append_assoc]
  · rw [String.append_assoc, spaces, textWidth_blanks_append, textWidth_marker_append blankEnd,
      width, Nat.add_assoc]

/-- Markers are empty without a patch, and a status sign and a blank with one. -/
lemma changeMarker_blankEnd (ops : Option (List PatchOp)) (table : String) (p : PathPattern)
    (item : Option String) :
    changeMarker ops table p item = "" ∨ ∃ m, changeMarker ops table p item = m ++ " " := by
  cases ops with
  | none => exact .inl rfl
  | some ops => exact .inr ⟨_, rfl⟩

lemma textWidth_changeMarker (ops : Option (List PatchOp)) (table : String) (p : PathPattern)
    (item : Option String) :
    textWidth (changeMarker ops table p item) = if ops.isSome then 2 else 0 := by
  cases ops with
  | none => rfl
  | some ops =>
    simp only [changeMarker, Option.isSome_some, if_true]
    cases changeStatus table ops p item <;> decide

/-! ## Column widths -/

lemma foldl_max_bounds {α : Type} (f : α → Nat) (rows : List α) (init : Nat) :
    init ≤ rows.foldl (fun m r => max m (f r)) init ∧
      ∀ r ∈ rows, f r ≤ rows.foldl (fun m r => max m (f r)) init := by
  induction rows generalizing init with
  | nil => simp
  | cons x rows ih =>
    obtain ⟨above, bound⟩ := ih (max init (f x))
    simp only [List.foldl_cons, List.mem_cons, forall_eq_or_imp]
    exact ⟨le_trans (le_max_left _ _) above, le_trans (le_max_right _ _) above, bound⟩

/-- Every cell fits the width of its column. -/
lemma le_cellWidths {rows : List (List String)} {row : List String} (mem : row ∈ rows) {j : Nat}
    (hj : j < 4) : textWidth (row.getD j "") ≤ (cellWidths rows).getD j 0 := by
  have widest := (foldl_max_bounds (fun r => textWidth (r.getD j "")) rows 0).2 row mem
  simpa [cellWidths, List.getD_eq_getElem?_getD, hj] using widest

@[simp] lemma length_cellWidths (rows : List (List String)) : (cellWidths rows).length = 4 := by
  simp [cellWidths]

@[simp] lemma length_columnCells (style : SummaryStyle) (foreign : List String) (c : Column) :
    (columnCells style foreign c).length = 4 := rfl

/-! ## Lines of a table and of a summary -/

/-- Text that ends in a line break, followed by lines that each end in one, ends in one. -/
lemma append_join_lines {α : Type} (head : String) (line : α → String) (xs : List α) :
    ∃ front, head ++ "\n" ++ String.join (xs.map fun x => line x ++ "\n") = front ++ "\n" := by
  induction xs using List.reverseRecOn with
  | nil => exact ⟨head, by simp⟩
  | append_singleton xs x _ =>
    refine ⟨head ++ "\n" ++ String.join (xs.map fun x => line x ++ "\n") ++ line x, ?_⟩
    simp [String.join_append, String.append_assoc]

/-- Every column of a table has its line in the table's text, right after a line break. -/
lemma renderTable_eq_columnLine (style : SummaryStyle) (ops : Option (List PatchOp)) (t : Table)
    {c : Column} (column : c ∈ t.columns.values) :
    ∃ front after, renderTable style ops t =
      front ++ "\n" ++ columnLine style (changeMarker ops t.name .columnBase (some c.name))
        (cellWidths (columnRows style t)) (columnCells style (foreignColumns t) c) ++ "\n" ++
        after := by
  obtain ⟨before, later, split⟩ := List.append_of_mem column
  unfold renderTable
  dsimp only
  generalize cellWidths (columnRows style t) = widths
  rw [columnRows, split, List.map_append, List.map_cons, List.map_append, List.map_cons,
    String.join_append, String.join_cons]
  -- the head and the lines before end in a line break
  obtain ⟨front, ends⟩ := append_join_lines (tableHead ops t)
    (fun row => columnLine style (changeMarker ops t.name .columnBase (some (row.getD 0 "")))
      widths row) ((before.map (columnCells style (foreignColumns t))))
  have shifted := fun rest : String => congrArg (· ++ rest) ends
  simp only [String.append_assoc] at shifted
  -- what follows the line is left open, for `rfl` to read off the text
  refine ⟨front, ?_, ?_⟩
  swap
  · simp only [String.append_assoc, shifted]
    rfl

/-- Every table of a schema has its text in the summary, right after a line break. -/
lemma render_eq_renderTable (style : SummaryStyle) (s : Schema) (ops : Option (List PatchOp))
    {t : Table} (table : t ∈ s.tables.values) :
    ∃ front after, render style s ops = front ++ "\n" ++ renderTable style ops t ++ after := by
  obtain ⟨before, later, split⟩ := List.append_of_mem table
  unfold render
  dsimp only
  rw [split, List.map_append, List.map_cons, String.join_append, String.join_cons]
  refine ⟨summaryCounts s ++ String.join (before.map fun t => "\n" ++ renderTable style ops t),
    ?_, ?_⟩
  swap
  · simp only [String.append_assoc]
    rfl

/-! ## Columns line up -/

/-- **Summary columns line up.** With a gap of at least one blank, in the summary of every
schema, every column of every table has its own line, between two line breaks, and that line
shows each of the column's cells that holds a non-blank character, up to the cell's trailing
blanks, after a text as wide as the indent, the marker (two columns with a patch, none
without) and the widths and gaps of the cells before it; the width of a cell's column is that
of the widest cell of the column in the table. -/
theorem render_cells_line_up (style : SummaryStyle) (s : Schema) (ops : Option (List PatchOp))
    (spaced : 0 < style.gap) {t : Table} (table : t ∈ s.tables.values) {c : Column}
    (column : c ∈ t.columns.values) {k : Nat} (hk : k < 4)
    (shown : trimEnd ((columnCells style (foreignColumns t) c).getD k "") ≠ "") :
    let line := columnLine style (changeMarker ops t.name .columnBase (some c.name))
      (cellWidths (columnRows style t)) (columnCells style (foreignColumns t) c)
    ∃ front after P rest,
      render style s ops = front ++ "\n" ++ line ++ "\n" ++ after ∧
      line = P ++ trimEnd ((columnCells style (foreignColumns t) c).getD k "") ++ rest ∧
      textWidth P = style.indent + (if ops.isSome then 2 else 0) +
        (((cellWidths (columnRows style t)).take k).map (· + style.gap)).sum := by
  intro line
  obtain ⟨front, after, inSummary⟩ := render_eq_renderTable style s ops table
  obtain ⟨front', after', inTable⟩ := renderTable_eq_columnLine style ops t column
  have row : columnCells style (foreignColumns t) c ∈ columnRows style t :=
    List.mem_map.mpr ⟨c, column, rfl⟩
  obtain ⟨P, rest, split, width⟩ := columnLine_eq style
    (changeMarker_blankEnd ops t.name .columnBase (some c.name)) (cellWidths (columnRows style t))
    (columnCells style (foreignColumns t) c) (by simpa using hk)
    (fun j hj => le_cellWidths row (by omega)) spaced shown
  refine ⟨front ++ "\n" ++ front', after' ++ after, P, rest, ?_, split, ?_⟩
  · rw [inSummary, inTable]
    simp only [line, String.append_assoc]
  · rw [width, textWidth_changeMarker]

/-- The sample of the summary's own test: the flags of the column named in a wide script start
where those of `id` do. -/
theorem render_cells_line_up_sample :
    let users : Table :=
      { name := "users", comment := some "User table",
        columns := ⟨[("id", { name := "id", type := "bigint", primary := true }),
          ("ユーザー名", { name := "ユーザー名", type := "text", notNull := true })]⟩ }
    let wide : Column := { name := "ユーザー名", type := "text", notNull := true }
    let line := columnLine {} (changeMarker none users.name .columnBase (some wide.name))
      (cellWidths (columnRows {} users)) (columnCells {} (foreignColumns users) wide)
    ∃ front after P rest,
      render {} { tables := ⟨[("users", users)]⟩ } none = front ++ "\n" ++ line ++ "\n" ++ after ∧
      line = P ++ trimEnd ((columnCells {} (foreignColumns users) wide).getD 2 "") ++ rest ∧
      textWidth P = 2 + (if (none : Option (List PatchOp)).isSome then 2 else 0) +
        (((cellWidths (columnRows {} users)).take 2).map (· + 2)).sum := by
  intro users wide line
  exact render_cells_line_up {} _ none (by decide) (List.mem_singleton.mpr rfl)
    (List.mem_cons_of_mem _ (List.mem_singleton.mpr rfl)) (by decide) (by decide)

/-- Two ways the columns of a summary fail to line up. With no gap, a cell as wide as its
column meets the next one: `#` and the emoji selector after it are one glyph two columns wide,
so the flags start a column late. And a cell of blanks at the end of a line is cut with the
line's trailing blanks. -/
theorem render_cells_misaligned :
    let joined : Table :=
      { name := "t", columns := ⟨[("a#", { name := "a#", type := "\uFE0F", primary := true })]⟩ }
    let blank : Table := { name := "t", columns := ⟨[(" ", { name := " ", type := "" })]⟩ }
    (render { gap := 0 } { tables := ⟨[("t", joined)]⟩ } none =
        "1 tables, 0 relationships, 0 enums, 0 extensions\n\nt\n" ++ "  a#\uFE0FPK" ++ "\n" ∧
      cellWidths (columnRows { gap := 0 } joined) = [2, 0, 2, 0] ∧
      ¬ ∃ P rest, "  a#\uFE0FPK" = P ++ "PK" ++ rest ∧ textWidth P = 2 + (2 + 0) + (0 + 0)) ∧
    (render {} { tables := ⟨[("t", blank)]⟩ } none =
        "1 tables, 0 relationships, 0 enums, 0 extensions\n\nt\n" ++ "" ++ "\n" ∧
      ¬ ∃ P rest, "" = P ++ " " ++ rest) := by
  refine ⟨⟨by decide, by decide, ?_⟩, by decide, ?_⟩
  · rintro ⟨P, rest, line, width⟩
    have chars : "  a#\uFE0FPK".toList = P.toList ++ (['P', 'K'] ++ rest.toList) := by
      rw [line]
      simp
    -- `PK` stands in the line after its first five characters only
    have five : P.toList.length = 5 := by
      have onlyThere : ∀ n ≤ 7, ("  a#\uFE0FPK".toList.drop n).take 2 = ['P', 'K'] → n = 5 := by
        decide
      have bound : P.toList.length ≤ 7 := by
        have := congrArg List.length chars
        simp at this
        omega
      apply onlyThere _ bound
      rw [chars, List.drop_left]
      rfl
    have front : P = "  a#\uFE0F" := by
      have taken : "  a#\uFE0FPK".toList.take 5 = P.toList := by
        rw [chars, ← five, List.take_left]
      rw [← String.toList_inj, ← taken]
      decide
    rw [front] at width
    exact absurd width (by decide)
  · rintro ⟨P, rest, line⟩
    have := congrArg String.length line
    have blank : " ".length = 1 := rfl
    simp only [String.length_empty, String.length_append, blank] at this
    omega

end SummaryStyle

end Schemata
