import Mathlib
import Schemata.Proofs.Fuel
import Schemata.Rails.Lexer

/-!
# The schema file lexer's loops run to completion

The lexer of schema files scans with loops bounded by the size of the text:
blanks and comments, words, strings and symbols, the digits of a number, and
the outer loop over tokens. Each round of each loop that goes on moves past at
least one character, so the bound the lexer passes is never reached.
`FuelSuffices` collects, for every loop at the place it is called, that more
fuel gives the same result, and `fuelSuffices` proves it for every text.

The outer loop needs each token to end past where it starts and inside the
text; `tokenAt_span` gives this for every token the lexer reads.
-/

namespace Schemata

namespace Rails.Lexer

variable (src : SourceText)

/-! ## Where the scanning helpers stop -/

lemma toLineEnd_ge : ∀ f j, j ≤ skipBlanks.toLineEnd src f j
  | 0, j => le_refl j
  | f + 1, j => by
    simp only [skipBlanks.toLineEnd]
    split
    · exact le_refl j
    · exact le_refl j
    · exact Nat.le_of_succ_le (toLineEnd_ge f (j + 1))

lemma toLineEnd_le : ∀ f j, j ≤ src.size → skipBlanks.toLineEnd src f j ≤ src.size
  | 0, j, h => h
  | f + 1, j, h => by
    simp only [skipBlanks.toLineEnd]
    split
    · exact h
    · exact h
    · next c _ _ hc =>
      have := SourceText.lt_size_of_get? hc
      exact toLineEnd_le f (j + 1) (by omega)

/-- A comment's skip moves past its `#`. -/
lemma lt_toLineEnd {j : Nat} (hc : src.get? j = some '#') (f : Nat) :
    j < skipBlanks.toLineEnd src (f + 1) j := by
  simp only [skipBlanks.toLineEnd, hc]
  exact Nat.lt_of_lt_of_le (Nat.lt_succ_self j) (toLineEnd_ge src f (j + 1))

/-- A line continuation `\` moves past the backslash and an optional line end
after it, never past the text. -/
lemma continuation_bounds (i : Nat) (inside : i < src.size) :
    let j := if src.get? (i + 1) == some '\r' then i + 1 + 1 else i + 1
    let k := if src.get? j == some '\n' then j + 1 else j
    i < k ∧ k ≤ src.size := by
  intro j k
  have hj : i < j ∧ j ≤ src.size := by
    simp only [j]
    split
    · next cr => have := SourceText.lt_size_of_get? (beq_iff_eq.mp cr); omega
    · omega
  simp only [k]
  split
  · next lf => have := SourceText.lt_size_of_get? (beq_iff_eq.mp lf); omega
  · omega

lemma skipBlanks_ge : ∀ f i, i ≤ skipBlanks src f i
  | 0, i => le_refl i
  | f + 1, i => by
    simp only [skipBlanks]
    split
    · exact le_refl i
    · next hc =>
      have step := continuation_bounds src i (SourceText.lt_size_of_get? hc)
      exact le_trans (Nat.le_of_lt step.1) (skipBlanks_ge f _)
    · exact le_trans (toLineEnd_ge src _ _) (skipBlanks_ge f _)
    · split
      · exact Nat.le_of_succ_le (skipBlanks_ge f (i + 1))
      · exact le_refl i
    · exact le_refl i

lemma skipBlanks_le : ∀ f i, i ≤ src.size → skipBlanks src f i ≤ src.size
  | 0, i, h => h
  | f + 1, i, h => by
    simp only [skipBlanks]
    split
    · exact h
    · next hc =>
      have step := continuation_bounds src i (SourceText.lt_size_of_get? hc)
      exact skipBlanks_le f _ step.2
    · exact skipBlanks_le f _ (toLineEnd_le src _ _ h)
    · next c _ _ _ hc =>
      have := SourceText.lt_size_of_get? hc
      split
      · exact skipBlanks_le f (i + 1) (by omega)
      · exact h
    · exact h

lemma wordEnd.go_ge : ∀ f j, j ≤ wordEnd.go src f j
  | 0, j => le_refl j
  | f + 1, j => by
    simp only [wordEnd.go]
    split
    · split
      · exact Nat.le_of_succ_le (go_ge f (j + 1))
      · exact le_refl j
    · exact le_refl j

lemma wordEnd.go_le : ∀ f j, j ≤ src.size → wordEnd.go src f j ≤ src.size
  | 0, j, h => h
  | f + 1, j, h => by
    simp only [wordEnd.go]
    split
    · next c hc =>
      have := SourceText.lt_size_of_get? hc
      split
      · exact go_le f (j + 1) (by omega)
      · exact h
    · exact h

lemma wordEnd_bounds {i : Nat} (inside : i ≤ src.size) : i ≤ wordEnd src i ∧ wordEnd src i ≤ src.size := by
  have ge := wordEnd.go_ge src src.size i
  have le := wordEnd.go_le src src.size i inside
  simp only [wordEnd]
  split
  · next mark => have := SourceText.lt_size_of_get? mark; omega
  · next mark => have := SourceText.lt_size_of_get? mark; omega
  · omega

lemma readString_bounds (q : Char) (start : Nat) :
    ∀ f acc i s j, readString src q start f acc i = .ok (s, j) → i ≤ src.size →
      i ≤ j ∧ j ≤ src.size
  | 0, _, i, s, j, h, inside => by
    cases h
    exact ⟨le_refl i, inside⟩
  | f + 1, acc, i, s, j, h, inside => by
    simp only [readString] at h
    split at h
    · cases h
    · next c hc =>
      have := SourceText.lt_size_of_get? hc
      split at h
      · cases h
        omega
      · split at h
        · split at h
          · have := readString_bounds q start f acc (i + 1) s j h (by omega)
            omega
          · next e he =>
            have := SourceText.lt_size_of_get? he
            have := readString_bounds q start f _ (i + 2) s j h (by omega)
            omega
        · have := readString_bounds q start f (c :: acc) (i + 1) s j h (by omega)
          omega

lemma numberDigits_bounds : ∀ f isFloat acc i, i ≤ src.size →
    i ≤ (numberDigits src f isFloat acc i).2.2 ∧ (numberDigits src f isFloat acc i).2.2 ≤ src.size
  | 0, _, _, i, h => ⟨le_refl i, h⟩
  | f + 1, isFloat, acc, i, h => by
    simp only [numberDigits]
    split
    · next c hc =>
      have := SourceText.lt_size_of_get? hc
      split
      · have := numberDigits_bounds f isFloat (c :: acc) (i + 1) (by omega)
        omega
      · split
        · have := numberDigits_bounds f isFloat acc (i + 1) (by omega)
          omega
        · split
          · have := numberDigits_bounds f true ('.' :: acc) (i + 1) (by omega)
            omega
          · exact ⟨le_refl i, h⟩
    · exact ⟨le_refl i, h⟩

lemma readNumber_bounds {first : Char} {i j : Nat} {t : Token} (h : readNumber src first i = .ok (t, j))
    (inside : i ≤ src.size) : i ≤ j ∧ j ≤ src.size := by
  have digits := numberDigits_bounds src src.size false [first] i inside
  simp only [readNumber] at h
  generalize numberDigits src src.size false [first] i = r at h digits
  obtain ⟨isFloat, acc, k⟩ := r
  simp only at h digits
  split at h
  · split at h
    · cases h
      exact digits
    · cases h
  · split at h
    · cases h
      exact digits
    · cases h

lemma readString_map_bounds {g : String → Token} {q : Char} {start i j : Nat} {t : Token}
    (h : Except.map (fun x => (g x.1, x.2)) (readString src q start src.size [] i) = .ok (t, j))
    (inside : i ≤ src.size) : i ≤ j ∧ j ≤ src.size := by
  cases hr : readString src q start src.size [] i with
  | error e => rw [hr] at h; cases h
  | ok r =>
    rw [hr] at h
    cases h
    exact readString_bounds src q start _ _ _ _ _ hr inside

/-- Every token is a nonempty run of the text. -/
theorem tokenAt_span {i j : Nat} {t : Token} (h : tokenAt src i = some (.ok (t, j))) :
    i < j ∧ j ≤ src.size := by
  simp only [tokenAt] at h
  split at h
  · cases h
  next c hc =>
  have inside := SourceText.lt_size_of_get? hc
  split at h
  -- the one-character tokens
  all_goals try (cases h; omega)
  · -- `::`, a symbol, or a lone `:`
    split at h
    · next second => cases h; have := SourceText.lt_size_of_get? second; omega
    · next q _ second =>
      have := SourceText.lt_size_of_get? second
      split at h
      · have := readString_map_bounds src (Option.some.inj h) (by omega)
        omega
      · split at h
        · cases h
          have := wordEnd_bounds src (i := i + 2) (by omega)
          omega
        · cases h; omega
    · cases h; omega
  · -- `->`, a negative number, or a lone `-`
    split at h
    · next arrow => cases h; have := SourceText.lt_size_of_get? (beq_iff_eq.mp arrow); omega
    · split at h
      · have := readNumber_bounds src (Option.some.inj h) (by omega)
        omega
      · cases h; omega
  · -- `=>` or a lone `=`
    split at h
    · next arrow => cases h; have := SourceText.lt_size_of_get? (beq_iff_eq.mp arrow); omega
    · cases h; omega
  · -- strings, numbers, words and labels
    split at h
    · have := readString_map_bounds src (Option.some.inj h) (by omega)
      omega
    · split at h
      · have := readNumber_bounds src (Option.some.inj h) (by omega)
        omega
      · split at h
        · have word := wordEnd_bounds src (i := i + 1) (by omega)
          split at h
          · next colon =>
            cases h
            simp only [Bool.and_eq_true, beq_iff_eq] at colon
            have := SourceText.lt_size_of_get? colon.1
            omega
          · cases h; omega
        · cases h; omega

/-! ## Fuel -/

theorem toLineEnd_settles : SettlesWithin (fun j => src.size - j) (skipBlanks.toLineEnd src) := by
  refine SettlesWithin.of_round (fun j ended k => ?_) (fun f j _ later k => ?_)
  · have : src.get? j = none := SourceText.get?_eq_none (by omega)
    cases k <;> simp [skipBlanks.toLineEnd, this]
  · rw [Nat.add_right_comm]
    simp only [skipBlanks.toLineEnd]
    split
    · rfl
    · rfl
    · next c _ _ hc =>
      have := SourceText.lt_size_of_get? hc
      exact later (j + 1) (by omega) k

theorem skipBlanks_settles : SettlesWithin (fun i => src.size - i) (skipBlanks src) := by
  refine SettlesWithin.of_round (fun i ended k => ?_) (fun f i _ later k => ?_)
  · have : src.get? i = none := SourceText.get?_eq_none (by omega)
    cases k <;> simp [skipBlanks, this]
  · rw [Nat.add_right_comm]
    simp only [skipBlanks]
    split
    · rfl
    · next hc =>
      have step := continuation_bounds src i (SourceText.lt_size_of_get? hc)
      exact later _ (by omega) k
    · next hc =>
      -- a comment has at least its `#`, and the text is not empty
      have inside := SourceText.lt_size_of_get? hc
      obtain ⟨n, hn⟩ : ∃ n, src.size = n + 1 := ⟨src.size - 1, by omega⟩
      have := lt_toLineEnd src hc n
      rw [← hn] at this
      exact later _ (by omega) k
    · next c _ _ _ hc =>
      have := SourceText.lt_size_of_get? hc
      split
      · exact later (i + 1) (by omega) k
      · rfl
    · rfl

theorem wordEnd.go_settles : SettlesWithin (fun j => src.size - j) (wordEnd.go src) := by
  refine SettlesWithin.of_round (fun j ended k => ?_) (fun f j _ later k => ?_)
  · have : src.get? j = none := SourceText.get?_eq_none (by omega)
    cases k <;> simp [wordEnd.go, this]
  · rw [Nat.add_right_comm]
    simp only [wordEnd.go]
    split
    · next c hc =>
      have := SourceText.lt_size_of_get? hc
      split
      · exact later (j + 1) (by omega) k
      · rfl
    · rfl

theorem readString_settles (q : Char) (start : Nat) :
    SettlesWithin (fun x : List Char × Nat => src.size - x.2 + 1)
      (fun f x => readString src q start f x.1 x.2) := by
  refine SettlesWithin.of_round (fun x ended => by omega) (fun f ⟨acc, i⟩ _ later k => ?_)
  rw [Nat.add_right_comm]
  simp only [readString]
  split
  · rfl
  · next c hc =>
    have := SourceText.lt_size_of_get? hc
    split
    · rfl
    · split
      · split
        · exact later (acc, i + 1) (by simp only; omega) k
        · exact later (_, i + 2) (by simp only; omega) k
      · exact later (c :: acc, i + 1) (by simp only; omega) k

theorem numberDigits_settles :
    SettlesWithin (fun x : (Bool × List Char) × Nat => src.size - x.2)
      (fun f x => numberDigits src f x.1.1 x.1.2 x.2) := by
  refine SettlesWithin.of_round (fun ⟨⟨isFloat, acc⟩, i⟩ ended k => ?_)
    (fun f ⟨⟨isFloat, acc⟩, i⟩ _ later k => ?_)
  · have : src.get? i = none := SourceText.get?_eq_none (by simp only at ended; omega)
    cases k <;> simp [numberDigits, this]
  · rw [Nat.add_right_comm]
    simp only [numberDigits]
    split
    · next c hc =>
      have := SourceText.lt_size_of_get? hc
      split
      · exact later ((isFloat, c :: acc), i + 1) (by simp only; omega) k
      · split
        · exact later ((isFloat, acc), i + 1) (by simp only; omega) k
        · split
          · exact later ((true, '.' :: acc), i + 1) (by simp only; omega) k
          · rfl
    · rfl

theorem tokensFrom_settles :
    SettlesWithin (fun x : Nat × List Spanned => src.size - x.1 + 1)
      (fun f x => tokensFrom src f x.1 x.2) := by
  refine SettlesWithin.of_round (fun x ended => by omega) (fun f ⟨i, acc⟩ _ later k => ?_)
  rw [Nat.add_right_comm]
  have blank := skipBlanks_ge src src.size i
  simp only [tokensFrom]
  generalize skipBlanks src src.size i = i' at blank ⊢
  split
  · rfl
  · next t j read =>
    have := tokenAt_span src read
    exact later (j, _) (by simp only; omega) k
  · rfl

/-! ## The fuel the lexer passes -/

/-- Every loop of the `schema.rb` lexer, at each place it is called, runs on
fuel that never binds. A string is read from one or two characters past its
opening character, which is in the text. -/
structure FuelSuffices (src : SourceText) : Prop where
  blanks : ∀ i k, skipBlanks src (src.size + k) i = skipBlanks src src.size i
  comment : ∀ j k, skipBlanks.toLineEnd src (src.size + k) j = skipBlanks.toLineEnd src src.size j
  word : ∀ j k, wordEnd.go src (src.size + k) j = wordEnd.go src src.size j
  string : ∀ q start, start < src.size → ∀ k,
    readString src q start (src.size + k) [] (start + 1) = readString src q start src.size [] (start + 1)
  symbol : ∀ q start, start < src.size → ∀ k,
    readString src q start (src.size + k) [] (start + 2) = readString src q start src.size [] (start + 2)
  number : ∀ isFloat acc i k,
    numberDigits src (src.size + k) isFloat acc i = numberDigits src src.size isFloat acc i
  tokens : ∀ i acc k, tokensFrom src (src.size + 1 + k) i acc = tokensFrom src (src.size + 1) i acc
  /-- Each token is a nonempty run of the text, so every slice taken of it is in bounds. -/
  spans : ∀ i t j, tokenAt src i = some (.ok (t, j)) → i < j ∧ j ≤ src.size

theorem fuelSuffices : FuelSuffices src where
  blanks i k := skipBlanks_settles src i _ (by dsimp only; omega) k
  comment j k := toLineEnd_settles src j _ (by dsimp only; omega) k
  word j k := wordEnd.go_settles src j _ (by dsimp only; omega) k
  string q start inside k := readString_settles src q start ([], start + 1) _ (by dsimp only; omega) k
  symbol q start inside k := readString_settles src q start ([], start + 2) _ (by dsimp only; omega) k
  number isFloat acc i k := numberDigits_settles src ((isFloat, acc), i) _ (by dsimp only; omega) k
  tokens i acc k := tokensFrom_settles src (i, acc) _ (by dsimp only; omega) k
  spans _ _ _ := tokenAt_span src

end Rails.Lexer

end Schemata
