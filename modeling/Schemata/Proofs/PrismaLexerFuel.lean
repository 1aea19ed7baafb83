import Mathlib
import Schemata.Proofs.SqlLexerFuel
import Schemata.Prisma.Lexer

/-!
# The Prisma lexer's loops run to completion

The Prisma lexer scans with loops bounded by the size of the text: runs of
characters of a class, the body of a string, blanks and comments, and the
outer loop over tokens. Each round that goes on moves past at least one
character; a comment skipped moves past two, which is why the comment loop
needs only half the text left as fuel. `FuelSuffices` collects, for every loop
at the place it is called, that more fuel gives the same result, that each
token is a nonempty run of the text, and that the tokens end with the end
token, which the parser relies on to stop at the end of the input.

The class scan is the SQL lexer's: `skipWhile_eq` says so, and its facts are
taken from there.
-/

namespace Schemata

namespace Prisma.Lexer

open Unicode

variable (src : SourceText)

/-! ## Where the scanning helpers stop -/

/-- The blank skip is the one the SQL lexer uses. -/
lemma skipWhile_eq (p : Char → Bool) : ∀ f i, skipWhile src p f i = Sql.Lexer.skipWhile src p f i
  | 0, _ => rfl
  | f + 1, i => by
    simp only [skipWhile, Sql.Lexer.skipWhile]
    cases src.get? i with
    | none => rfl
    | some c => simp only [skipWhile_eq p f (i + 1)]

lemma skipWhile_bounds (p : Char → Bool) (f : Nat) {i : Nat} (inside : i ≤ src.size) :
    i ≤ skipWhile src p f i ∧ skipWhile src p f i ≤ src.size := by
  rw [skipWhile_eq]
  exact ⟨Sql.Lexer.skipWhile_ge src p f i, Sql.Lexer.skipWhile_le src p f i inside⟩

lemma skipWhile_of_get? {p : Char → Bool} {i : Nat} {c : Char} (hc : src.get? i = some c)
    (hp : p c = true) (f : Nat) : skipWhile src p (f + 1) i = skipWhile src p f (i + 1) := by
  simp only [skipWhile, hc, hp, if_true]

lemma readString_bounds (start : Nat) :
    ∀ f acc i s j, readString src start f acc i = .ok (s, j) → i < j ∧ j ≤ src.size
  | 0, _, _, _, _, h => by cases h
  | f + 1, acc, i, s, j, h => by
    simp only [readString] at h
    split at h
    · cases h
    · next hc =>
      cases h
      have := SourceText.lt_size_of_get? hc
      omega
    · split at h
      · cases h
      · have := readString_bounds start f _ (i + 2) s j h
        omega
    · have := readString_bounds start f _ (i + 1) s j h
      omega

/-- A `//` comment runs at least past its two slashes. -/
lemma add_two_le_comment_end {i : Nat} (first : src.get? i = some '/')
    (second : src.get? (i + 1) = some '/') :
    i + 2 ≤ skipWhile src (· != '\n') src.size i ∧ skipWhile src (· != '\n') src.size i ≤ src.size := by
  have inside := SourceText.lt_size_of_get? second
  obtain ⟨f, hf⟩ : ∃ f, src.size = f + 1 + 1 := ⟨src.size - 2, by omega⟩
  rw [hf, skipWhile_of_get? src first (by decide), skipWhile_of_get? src second (by decide)]
  have := skipWhile_bounds src (· != '\n') f (i := i + 1 + 1) (by omega)
  omega

/-- Trivia never moves back, and a documentation comment found is a nonempty
run of the text. -/
lemma skipTrivia_bounds : ∀ f i doc j, skipTrivia src f i = .ok (doc, j) →
    i ≤ j ∧ (doc.isSome → i < j ∧ j ≤ src.size)
  | 0, i, doc, j, h => by
    cases h
    exact ⟨le_refl i, by simp⟩
  | f + 1, i, doc, j, h => by
    have blank : i ≤ skipWhile src isWhiteSpace src.size i := by
      rw [skipWhile_eq]
      exact Sql.Lexer.skipWhile_ge src _ _ _
    simp only [skipTrivia] at h
    generalize skipWhile src isWhiteSpace src.size i = i' at blank h
    split at h
    · next slash =>
      split at h
      · cases h
      · next second =>
        have second : src.get? (i' + 1) = some '/' := by simpa using second
        have comment := add_two_le_comment_end src slash second
        split at h
        · cases h
          exact ⟨by omega, fun _ => ⟨by omega, comment.2⟩⟩
        · have := skipTrivia_bounds f _ doc j h
          exact ⟨by omega, fun found => ⟨by omega, (this.2 found).2⟩⟩
    · cases h
      exact ⟨blank, by simp⟩

theorem tokenAt_span {i j : Nat} {t : Token} (h : tokenAt src i = some (.ok (t, j))) :
    i < j ∧ j ≤ src.size := by
  simp only [tokenAt] at h
  split at h
  · cases h
  next c hc =>
  have inside := SourceText.lt_size_of_get? hc
  split at h
  -- the one-character tokens
  all_goals try (cases h; omega)
  · -- `@@` or `@`
    split at h
    · next second => cases h; have := SourceText.lt_size_of_get? (beq_iff_eq.mp second); omega
    · cases h; omega
  · -- strings
    simp only [Except.map] at h
    split at h
    · cases h
    · next v read =>
      obtain ⟨s, j'⟩ := v
      cases h
      have := readString_bounds src i _ _ _ _ _ read
      omega
  · -- numbers and words
    split at h
    · cases h
      have := skipWhile_bounds src isNumberChar src.size (i := i + 1) (by omega)
      omega
    · split at h
      · cases h
        have := skipWhile_bounds src isWordChar src.size (i := i + 1) (by omega)
        omega
      · cases h

/-! ## Fuel -/

theorem readString_settles (start : Nat) :
    SettlesWithin (fun x : List Char × Nat => src.size - x.2)
      (fun f x => readString src start f x.1 x.2) := by
  refine SettlesWithin.of_round (fun ⟨acc, i⟩ ended k => ?_) (fun f ⟨acc, i⟩ _ later k => ?_)
  · -- past the text every round stops at once, as no fuel does
    have : src.get? i = none := SourceText.get?_eq_none (by dsimp only at ended; omega)
    cases k <;> simp [readString, this]
  · rw [Nat.add_right_comm]
    simp only [readString]
    split
    · rfl
    · rfl
    · next hc =>
      have := SourceText.lt_size_of_get? hc
      split
      · rfl
      · exact later (_, i + 2) (by simp only; omega) k
    · next c _ _ hc =>
      have := SourceText.lt_size_of_get? hc
      exact later (_, i + 1) (by simp only; omega) k

/-- Each comment skipped takes two characters at least, so half the text
left is fuel enough. -/
theorem skipTrivia_settles : SettlesWithin (fun i => (src.size - i + 1) / 2) (skipTrivia src) := by
  refine SettlesWithin.of_round (fun i ended k => ?_) (fun f i _ later k => ?_)
  · -- past the text the blanks and the comment test find nothing
    have past : src.size ≤ i := by omega
    have blank : skipWhile src isWhiteSpace src.size i = i := by
      rw [skipWhile_eq]
      cases src.size <;> simp [Sql.Lexer.skipWhile, SourceText.get?_eq_none past]
    cases k <;> simp [skipTrivia, blank, SourceText.get?_eq_none past]
  · rw [Nat.add_right_comm]
    have blank : i ≤ skipWhile src isWhiteSpace src.size i := by
      rw [skipWhile_eq]
      exact Sql.Lexer.skipWhile_ge src _ _ _
    simp only [skipTrivia]
    generalize skipWhile src isWhiteSpace src.size i = i' at blank ⊢
    split
    · next slash =>
      split
      · rfl
      · next second =>
        have second : src.get? (i' + 1) = some '/' := by simpa using second
        have comment := add_two_le_comment_end src slash second
        split
        · rfl
        · exact later _ (by omega) k
    · rfl

theorem tokensFrom_settles :
    SettlesWithin (fun x : Nat × List Spanned => src.size - x.1 + 1)
      (fun f x => tokensFrom src f x.1 x.2) := by
  refine SettlesWithin.of_round (fun x ended => by omega) (fun f ⟨i, acc⟩ _ later k => ?_)
  rw [Nat.add_right_comm]
  simp only [tokensFrom]
  cases trivia : skipTrivia src src.size i with
  | error e => rfl
  | ok r =>
    obtain ⟨doc, i'⟩ := r
    have skipped := skipTrivia_bounds src _ _ _ _ trivia
    simp only [bind, Except.bind]
    split
    · exact later (i', _) (by simp only; have := skipped.2 rfl; omega) k
    · split
      · rfl
      · rfl
      · next t j read =>
        have := tokenAt_span src read
        exact later (j, _) (by simp only; omega) k

/-- Every run of the lexer that succeeds ends with the end token. -/
theorem tokensFrom_ends_with_eof :
    ∀ f i acc tokens, tokensFrom src f i acc = .ok tokens → tokens.getLast?.map (·.token) = some .eof
  | 0, i, acc, tokens, h => by
    cases h
    simp
  | f + 1, i, acc, tokens, h => by
    simp only [tokensFrom] at h
    cases trivia : skipTrivia src src.size i with
    | error e => simp [trivia, bind, Except.bind] at h
    | ok r =>
      obtain ⟨doc, i'⟩ := r
      simp only [trivia, bind, Except.bind] at h
      split at h
      · exact tokensFrom_ends_with_eof f _ _ tokens h
      · split at h
        · cases h
          simp
        · cases h
        · exact tokensFrom_ends_with_eof f _ _ tokens h

/-! ## The fuel the lexer passes -/

/-- Every loop of the lexer runs on a bound that never binds, each token is a
nonempty run of the text, and the tokens end with the end token. -/
structure FuelSuffices (src : SourceText) : Prop where
  blanks : ∀ p i k, skipWhile src p (src.size + k) i = skipWhile src p src.size i
  string : ∀ start i, start < i → ∀ k,
    readString src start (src.size + k) [] i = readString src start src.size [] i
  trivia : ∀ i k, skipTrivia src (src.size + k) i = skipTrivia src src.size i
  tokens : ∀ i acc k, tokensFrom src (src.size + 1 + k) i acc = tokensFrom src (src.size + 1) i acc
  spans : ∀ i t j, tokenAt src i = some (.ok (t, j)) → i < j ∧ j ≤ src.size
  ends : ∀ i acc tokens, tokensFrom src (src.size + 1) i acc = .ok tokens →
    tokens.getLast?.map (·.token) = some .eof

theorem fuelSuffices : FuelSuffices src where
  blanks p i k := by
    rw [skipWhile_eq, skipWhile_eq]
    exact Sql.Lexer.skipWhile_settles src p i _ (by dsimp only; omega) k
  string start i _ k := readString_settles src start ([], i) _ (by dsimp only; omega) k
  trivia i k := skipTrivia_settles src i _ (by dsimp only; omega) k
  tokens i acc k := tokensFrom_settles src (i, acc) _ (by dsimp only; omega) k
  spans _ _ _ := tokenAt_span src
  ends := tokensFrom_ends_with_eof src _

end Prisma.Lexer

end Schemata
