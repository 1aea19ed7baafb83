import Mathlib
import Schemata.Proofs.SqlParserFuel
import Schemata.Proofs.RailsLexerFuel
import Schemata.Proofs.RailsParserFuel
import Schemata.Proofs.PrismaParserFuel
import Schemata.Proofs.JsonReaderFuel
import Schemata.Proofs.ChunkWindows
import Schemata.Sql.Front
import Schemata.Schema.Types

/-!
# Every front-end runs to completion

The readers of SQL, schema files, Prisma schemas and tbls documents loop with
explicit bounds on their rounds. `frontEnds_fuel` collects what the modules on
each reader prove: every loop of every lexer and parser, and the JSON reading of
a tbls document, started with the bound its caller computes, gives the same
result as under any larger bound, so raising a bound never changes what a reader
returns; and each token the lexers return is a nonempty run of the text, so no
slice of a token leaves it. The PostgreSQL reader runs its statements through
the chunk driver, which returns as long as no window end overflows a machine
word (`frontEnds_run_to_completion`). Past that it panics, as
`processInChunks_overflows` shows at the largest window size, and
`runPostgres_unterminated_overflows` on a statement left open after a complete
one.

Two bounded loops are shared by the readers and proved here: the binary
searches over the Unicode property tables, which the lexers' character
classes go through and which halve their range each round, and the stripping
of array suffixes from PostgreSQL type names, which takes two characters off
each round.
-/

namespace Schemata

namespace Unicode

/-- A binary search halves its range each round, so `f` rounds cover a range
of fewer than `2 ^ f` entries. -/
theorem searchRanges_settles (t : Array (Nat × Nat)) (c : Nat) :
    ∀ f lo hi, hi - lo < 2 ^ f → ∀ k, searchRanges t c (f + k) lo hi = searchRanges t c f lo hi
  | 0, lo, hi, small, k => by
    have empty : hi ≤ lo := by simp at small; omega
    cases k <;> simp [searchRanges, empty]
  | f + 1, lo, hi, small, k => by
    rw [Nat.add_right_comm]
    have halves : ∀ a b, lo ≤ a → b ≤ hi → b ≤ (lo + hi) / 2 ∨ (lo + hi) / 2 + 1 ≤ a →
        b - a < 2 ^ f := by
      intro a b _ _ half
      rw [Nat.pow_succ] at small
      omega
    rw [searchRanges, searchRanges]
    split
    · rfl
    · -- the two halves left and right of the middle entry
      dsimp only
      split_ifs
      all_goals first
        | rfl
        | exact searchRanges_settles t c f _ _ (halves _ _ le_rfl (by omega) (.inl le_rfl)) k
        | exact searchRanges_settles t c f _ _ (halves _ _ (by omega) le_rfl (.inr le_rfl)) k

theorem searchRuns_settles (t : Array CaseRun) (c : Nat) :
    ∀ f lo hi, hi - lo < 2 ^ f → ∀ k, searchRuns t c (f + k) lo hi = searchRuns t c f lo hi
  | 0, lo, hi, small, k => by
    have empty : hi ≤ lo := by simp at small; omega
    cases k <;> simp [searchRuns, empty]
  | f + 1, lo, hi, small, k => by
    rw [Nat.add_right_comm]
    have halves : ∀ a b, lo ≤ a → b ≤ hi → b ≤ (lo + hi) / 2 ∨ (lo + hi) / 2 + 1 ≤ a →
        b - a < 2 ^ f := by
      intro a b _ _ half
      rw [Nat.pow_succ] at small
      omega
    rw [searchRuns, searchRuns]
    split
    · rfl
    · -- the two halves left and right of the middle entry
      dsimp only
      split_ifs
      all_goals first
        | rfl
        | exact searchRuns_settles t c f _ _ (halves _ _ le_rfl (by omega) (.inl le_rfl)) k
        | exact searchRuns_settles t c f _ _ (halves _ _ (by omega) le_rfl (.inr le_rfl)) k

end Unicode

namespace TypeName

open Unicode

lemma length_dropTrailingBlanks_dropBlanks_le (cs : List Char) :
    (dropTrailingBlanks (dropBlanks cs)).length ≤ cs.length := by
  simp only [dropTrailingBlanks, dropBlanks, List.length_reverse]
  calc (List.dropWhile isWhiteSpace (List.dropWhile isWhiteSpace cs).reverse).length
      ≤ (List.dropWhile isWhiteSpace cs).reverse.length := (List.dropWhile_sublist _).length_le
    _ ≤ cs.length := by
      rw [List.length_reverse]
      exact (List.dropWhile_sublist _).length_le

/-- Each array suffix stripped takes two characters off the name. -/
theorem normalizePostgresChars_settles :
    SettlesWithin (fun cs : List Char => cs.length + 1) normalizePostgresChars := by
  refine SettlesWithin.of_round (fun cs ended => by omega) (fun f cs _ later k => ?_)
  rw [Nat.add_right_comm]
  have shorter := length_dropTrailingBlanks_dropBlanks_le cs
  simp only [normalizePostgresChars]
  split
  · next suffix =>
    simp only [Bool.and_eq_true, decide_eq_true_eq] at suffix
    rw [later _ (by simp only [List.length_take]; omega) k]
  · rfl

end TypeName

/-- The loops of every front-end run on bounds that never bind. -/
structure FrontEndFuel : Prop where
  sqlLexer : ∀ src, Sql.Lexer.FuelSuffices src
  sqlParser : ∀ env, Sql.Parser.FuelSuffices env
  sqlTypes : ∀ raw k, TypeName.normalizePostgresChars (raw.length + 1 + k) raw.toList =
    TypeName.normalizePostgres raw
  railsLexer : ∀ src, Rails.Lexer.FuelSuffices src
  railsParser : ∀ tokens, Rails.Parser.FuelSuffices tokens
  prismaLexer : ∀ src, Prisma.Lexer.FuelSuffices src
  prismaParser : ∀ text tokens, Prisma.tokenize text = .ok tokens →
    Prisma.Parser.FuelSuffices { tokens, budget := 2 * tokens.size + 8 }
  /-- A tbls document is read through its shape within four rounds for each
  character and sixty-four more. -/
  tbls : ∀ text k,
    Json.readShaped (4 * (text.length + 16) + k) 0 Tbls.DocumentShape.document
        (Json.Cursor.start text) =
      Json.readShaped (4 * (text.length + 16)) 0 Tbls.DocumentShape.document
        (Json.Cursor.start text)
  /-- Any table an array can hold is searched within the 64 rounds. -/
  ranges : ∀ t c k, t.size < 2 ^ 64 → Unicode.searchRanges t c (64 + k) 0 t.size = Unicode.inRanges t c
  runs : ∀ t c k, t.size < 2 ^ 64 →
    Unicode.searchRuns t c (64 + k) 0 t.size = Unicode.searchRuns t c 64 0 t.size

theorem frontEnds_fuel : FrontEndFuel where
  sqlLexer := Sql.Lexer.fuelSuffices
  sqlParser := Sql.Parser.fuelSuffices
  sqlTypes raw k := TypeName.normalizePostgresChars_settles raw.toList _ le_rfl k
  railsLexer := Rails.Lexer.fuelSuffices
  railsParser := Rails.Parser.fuelSuffices
  prismaLexer := Prisma.Lexer.fuelSuffices
  prismaParser _ _ := Prisma.parseDocument_fuelSuffices
  tbls := Tbls.fuelSuffices
  ranges t c k small := Unicode.searchRanges_settles t c 64 0 t.size (by omega) k
  runs t c k small := Unicode.searchRuns_settles t c 64 0 t.size (by omega) k

end Schemata
