import Mathlib
import Schemata.Proofs.Fuel
import Schemata.Sql.Lexer

/-!
# The SQL lexer's loops run to completion

Each scanning loop of the SQL lexer is bounded by the size of the text, and
each of its rounds that goes on moves past at least one character. So the
bound the lexer passes is never reached: `FuelSuffices` collects, for every
loop at the place it is called, that more fuel gives the same result, and
`fuelSuffices` proves it for every text.

Each loop's proof is one round of `SettlesWithin.of_round` with the number of
characters left as the need. The lexer's outer loop needs the helper reads to
end inside the text and past where they started; `nextToken_span` gives this
for every token: its span is a nonempty run of the text, at or after the
position the lexer was asked to read from, so no slice of a token leaves the
text.
-/

namespace Schemata

namespace Sql.Lexer

variable (src : SourceText)

/-! ## Where the scanning helpers stop -/

lemma skipWhile_ge (p : Char → Bool) : ∀ f i, i ≤ skipWhile src p f i
  | 0, i => Nat.le_refl i
  | f + 1, i => by
    simp only [skipWhile]
    split
    · split
      · exact Nat.le_of_succ_le (skipWhile_ge p f (i + 1))
      · exact Nat.le_refl i
    · exact Nat.le_refl i

lemma skipWhile_le (p : Char → Bool) : ∀ f i, i ≤ src.size → skipWhile src p f i ≤ src.size
  | 0, i, h => h
  | f + 1, i, h => by
    simp only [skipWhile]
    split
    · next c hc =>
      have := SourceText.lt_size_of_get? hc
      split
      · exact skipWhile_le p f (i + 1) (by omega)
      · exact h
    · exact h

lemma lt_skipWhile {p : Char → Bool} {i : Nat} {c : Char} (hc : src.get? i = some c)
    (hp : p c = true) {f : Nat} (pos : 0 < f) : i < skipWhile src p f i := by
  obtain ⟨f, rfl⟩ : ∃ g, f = g + 1 := ⟨f - 1, by omega⟩
  simp only [skipWhile, hc, hp, if_true]
  exact Nat.lt_of_lt_of_le (Nat.lt_succ_self i) (skipWhile_ge src p f (i + 1))

lemma skipLineComment_gt {i : Nat} (inside : i < src.size) (f : Nat) :
    i < skipLineComment src f i := by
  have := skipWhile_ge src (· != '\n') f i
  simp only [skipLineComment]
  split <;> omega

lemma skipLineComment_le {i : Nat} (inside : i ≤ src.size) (f : Nat) :
    skipLineComment src f i ≤ src.size := by
  have := skipWhile_le src (· != '\n') f i inside
  simp only [skipLineComment]
  split <;> omega

lemma skipBlockComment_bounds (start : Nat) :
    ∀ f depth i j, skipBlockComment src start f depth i = .ok j →
      i ≤ j ∧ (i ≤ src.size → j ≤ src.size)
  | 0, _, i, j, h => by
    cases h
    exact ⟨Nat.le_refl i, id⟩
  | f + 1, depth, i, j, h => by
    simp only [skipBlockComment] at h
    split at h
    · cases h
    · next hi hnext =>
      have := SourceText.lt_size_of_get? hnext
      split at h
      · cases h
        omega
      · have := skipBlockComment_bounds start f (depth - 1) (i + 2) j h
        omega
    · next hi hnext =>
      have := SourceText.lt_size_of_get? hnext
      have := skipBlockComment_bounds start f (depth + 1) (i + 2) j h
      omega
    · next c _ hi _ _ =>
      have := SourceText.lt_size_of_get? hi
      have := skipBlockComment_bounds start f depth (i + 1) j h
      omega

lemma readQuoted_bounds (q : Char) (what : String) (start : Nat) :
    ∀ f acc i s j, readQuoted src q what start f acc i = .ok (s, j) → i ≤ src.size →
      i ≤ j ∧ j ≤ src.size
  | 0, _, i, s, j, h, inside => by
    cases h
    exact ⟨Nat.le_refl i, inside⟩
  | f + 1, acc, i, s, j, h, inside => by
    simp only [readQuoted] at h
    split at h
    · cases h
    · next c hc =>
      have := SourceText.lt_size_of_get? hc
      split at h
      · split at h
        · next doubled =>
          have := SourceText.lt_size_of_get? (beq_iff_eq.mp doubled)
          have := readQuoted_bounds q what start f (q :: acc) (i + 2) s j h (by omega)
          omega
        · cases h
          omega
      · have := readQuoted_bounds q what start f (c :: acc) (i + 1) s j h (by omega)
        omega

lemma readEscaped_bounds (start : Nat) :
    ∀ f acc i s j, readEscaped src start f acc i = .ok (s, j) → i ≤ src.size →
      i ≤ j ∧ j ≤ src.size
  | 0, _, i, s, j, h, inside => by
    cases h
    exact ⟨Nat.le_refl i, inside⟩
  | f + 1, acc, i, s, j, h, inside => by
    simp only [readEscaped] at h
    split at h
    · cases h
    · next hc =>
      have := SourceText.lt_size_of_get? hc
      split at h
      · next e he =>
        have := SourceText.lt_size_of_get? he
        have := readEscaped_bounds start f _ (i + 2) s j h (by omega)
        omega
      · have := readEscaped_bounds start f acc (i + 1) s j h (by omega)
        omega
    · next hc =>
      have := SourceText.lt_size_of_get? hc
      split at h
      · next doubled =>
        have := SourceText.lt_size_of_get? (beq_iff_eq.mp doubled)
        have := readEscaped_bounds start f _ (i + 2) s j h (by omega)
        omega
      · cases h
        omega
    · next c _ _ hc =>
      have := SourceText.lt_size_of_get? hc
      have := readEscaped_bounds start f (c :: acc) (i + 1) s j h (by omega)
      omega

lemma findFrom_bounds (pat : List Char) :
    ∀ f i k, findFrom src pat f i = some k → i ≤ k ∧ k + pat.length ≤ src.size
  | 0, _, _, h => by cases h
  | f + 1, i, k, h => by
    simp only [findFrom] at h
    split at h
    · cases h
    · split at h
      · cases h
        omega
      · have := findFrom_bounds pat f (i + 1) k h
        omega

lemma readNumber.go_ge : ∀ f hasDot i, i ≤ readNumber.go src f hasDot i
  | 0, _, i => Nat.le_refl i
  | f + 1, hasDot, i => by
    simp only [readNumber.go]
    split
    · split
      · exact Nat.le_of_succ_le (go_ge f hasDot (i + 1))
      · split
        · exact Nat.le_of_succ_le (go_ge f true (i + 1))
        · split
          · exact Nat.le_trans (by omega) (go_ge f hasDot (i + 2))
          · exact Nat.le_refl i
    · exact Nat.le_refl i

lemma readNumber.go_le : ∀ f hasDot i, i ≤ src.size → readNumber.go src f hasDot i ≤ src.size
  | 0, _, _, h => h
  | f + 1, hasDot, i, h => by
    simp only [readNumber.go]
    split
    · next c hc =>
      have := SourceText.lt_size_of_get? hc
      split
      · exact go_le f hasDot (i + 1) (by omega)
      · split
        · exact go_le f true (i + 1) (by omega)
        · split
          · next exponent =>
            -- an exponent mark is followed by a digit or a sign
            have hnext : (src.get? (i + 1)).isSome := by
              revert exponent
              cases src.get? (i + 1) <;> simp
            have := SourceText.lt_size_of_get? (Option.get_mem hnext)
            exact go_le f hasDot (i + 2) (by omega)
          · exact h
    · exact h

lemma readNumber_le {i : Nat} (inside : i ≤ src.size) : readNumber src i ≤ src.size := by
  simp only [readNumber]
  apply readNumber.go_le
  split
  · next minus =>
    have := SourceText.lt_size_of_get? (beq_iff_eq.mp minus)
    omega
  · exact inside

lemma lt_readNumber.go_of_digit {i : Nat} {c : Char} (hc : src.get? i = some c)
    (digit : isAsciiDigit c = true) (f : Nat) (hasDot : Bool) :
    i < readNumber.go src (f + 1) hasDot i := by
  simp only [readNumber.go, hc, digit, if_true]
  exact Nat.lt_of_lt_of_le (Nat.lt_succ_self i) (readNumber.go_ge src f hasDot (i + 1))

/-- A number token is never empty: it starts with a digit, a minus sign before
a digit, or a point before a digit. -/
lemma lt_readNumber {i : Nat} {c : Char} (hc : src.get? i = some c)
    (starts : isAsciiDigit c = true ∨ (c = '-' ∧ (src.get? (i + 1)).any isAsciiDigit = true) ∨
      (c = '.' ∧ (src.get? (i + 1)).any isAsciiDigit = true)) :
    i < readNumber src i := by
  have inside := SourceText.lt_size_of_get? hc
  obtain ⟨f, hf⟩ : ∃ f, src.size = f + 1 := ⟨src.size - 1, by omega⟩
  simp only [readNumber, hc]
  rcases starts with digit | ⟨rfl, next⟩ | ⟨rfl, next⟩
  · have : c ≠ '-' := by rintro rfl; simp [isAsciiDigit] at digit
    simp only [beq_iff_eq, Option.some.injEq, this, if_false, hf]
    exact lt_readNumber.go_of_digit src hc digit f false
  · obtain ⟨d, hd, digit⟩ := (Option.any_eq_true _ _).mp next
    simp only [beq_self_eq_true, if_true, hf]
    have := lt_readNumber.go_of_digit src hd digit f false
    omega
  · obtain ⟨d, hd, digit⟩ := (Option.any_eq_true _ _).mp next
    simp only [beq_iff_eq, Option.some.injEq, show ('.' : Char) ≠ '-' by decide, if_false, hf,
      readNumber.go, hc, hd]
    rw [if_neg (by decide), if_pos (by simp [digit])]
    exact Nat.lt_of_lt_of_le (Nat.lt_succ_self i) (readNumber.go_ge src f true (i + 1))

/-! ## Tokens -/

lemma readDollarQuoted_bounds {start : Nat} {s : String} {j : Nat}
    (h : readDollarQuoted src start = some (.ok (s, j))) : start < j ∧ j ≤ src.size := by
  simp only [readDollarQuoted] at h
  have tag := skipWhile_ge src (fun c => isAlphanumeric c || c == '_') src.size (start + 1)
  split at h
  · cases h
  split at h
  · cases h
  split at h
  · cases h
  split at h
  · next k found =>
    cases h
    have := findFrom_bounds src _ _ _ _ found
    omega
  · cases h

lemma isWordChar_of_isWordStart {c : Char} (h : isWordStart c = true) : isWordChar c = true := by
  simp only [isWordStart, Bool.or_eq_true] at h
  simp only [isWordChar, isAlphanumeric, Bool.or_eq_true]
  rcases h with h | h <;> simp [h]

/-- Every token the lexer reads is a nonempty run of the text at or after the
position it was asked to read from. -/
theorem nextToken_span : ∀ f i t, nextToken src f i = .token t →
    i ≤ t.start ∧ t.start < t.stop ∧ t.stop ≤ src.size
  | 0, _, _, h => by cases h
  | f + 1, i, t, h => by
    have blank := skipWhile_ge src Unicode.isWhiteSpace src.size i
    simp only [nextToken] at h
    generalize skipWhile src Unicode.isWhiteSpace src.size i = i' at h blank
    split at h
    · cases h
    next c hc =>
    have inside := SourceText.lt_size_of_get? hc
    generalize hnext : src.get? (i' + 1) = next at h
    -- a token ending at `j` inside the text
    have ending : ∀ tok j, Step.token ⟨tok, i', j⟩ = .token t → i' < j → j ≤ src.size →
        i ≤ t.start ∧ t.start < t.stop ∧ t.stop ≤ src.size := by
      intro tok j ht pos fits
      cases ht
      exact ⟨blank, pos, fits⟩
    have second : ∀ d, next = some d → i' + 1 < src.size := fun d hd =>
      SourceText.lt_size_of_get? (hnext.trans hd)
    have number : ∀ d, next = some d → isAsciiDigit d = true →
        (src.get? (i' + 1)).any isAsciiDigit = true := by
      intro d hd digit
      simp [hnext, hd, digit]
    rw [ite_eq_iff] at h
    rcases h with ⟨cond, h⟩ | ⟨-, h⟩
    · -- a line comment
      have := nextToken_span f _ t h
      have := skipLineComment_gt src inside src.size
      omega
    rw [ite_eq_iff] at h
    rcases h with ⟨cond, h⟩ | ⟨-, h⟩
    · simp only [Bool.and_eq_true, beq_iff_eq] at cond
      obtain ⟨rfl, next_digit⟩ := cond
      obtain ⟨d, hd, digit⟩ := (Option.any_eq_true _ _).mp next_digit
      exact ending _ _ h (lt_readNumber src hc (.inr (.inl ⟨rfl, number d hd digit⟩)))
        (readNumber_le src (by omega))
    rw [ite_eq_iff] at h
    rcases h with ⟨cond, h⟩ | ⟨-, h⟩
    · -- a block comment
      simp only [Bool.and_eq_true, beq_iff_eq] at cond
      have := second _ cond.2
      split at h
      · next j skipped =>
        have := skipBlockComment_bounds src i' src.size 1 (i' + 2) j skipped
        have := nextToken_span f j t h
        omega
      · cases h
    iterate 6
      rw [ite_eq_iff] at h
      rcases h with ⟨-, h⟩ | ⟨-, h⟩
      · exact ending _ _ h (by omega) (by omega)
    rw [ite_eq_iff] at h
    rcases h with ⟨cond, h⟩ | ⟨-, h⟩
    · simp only [Bool.and_eq_true, beq_iff_eq] at cond
      obtain ⟨rfl, next_digit⟩ := cond
      obtain ⟨d, hd, digit⟩ := (Option.any_eq_true _ _).mp next_digit
      exact ending _ _ h (lt_readNumber src hc (.inr (.inr ⟨rfl, number d hd digit⟩)))
        (readNumber_le src (by omega))
    rw [ite_eq_iff] at h
    rcases h with ⟨-, h⟩ | ⟨-, h⟩
    · exact ending _ _ h (by omega) (by omega)
    rw [ite_eq_iff] at h
    rcases h with ⟨cond, h⟩ | ⟨-, h⟩
    · simp only [Bool.and_eq_true, beq_iff_eq] at cond
      exact ending _ _ h (by omega) (by have := second _ cond.2; omega)
    -- quoted identifiers and strings
    rw [ite_eq_iff] at h
    rcases h with ⟨-, h⟩ | ⟨-, h⟩
    · split at h
      · next s j read =>
        have := readQuoted_bounds src _ _ _ _ _ _ s j read (by omega)
        exact ending _ j h (by omega) this.2
      · cases h
    rw [ite_eq_iff] at h
    rcases h with ⟨-, h⟩ | ⟨-, h⟩
    · split at h
      · next s j read =>
        have := readQuoted_bounds src _ _ _ _ _ _ s j read (by omega)
        exact ending _ j h (by omega) this.2
      · cases h
    rw [ite_eq_iff] at h
    rcases h with ⟨cond, h⟩ | ⟨-, h⟩
    · simp only [Bool.and_eq_true, beq_iff_eq] at cond
      have := second _ cond.2
      split at h
      · next s j read =>
        have := readEscaped_bounds src _ _ _ _ s j read (by omega)
        exact ending _ j h (by omega) this.2
      · cases h
    rw [ite_eq_iff] at h
    rcases h with ⟨-, h⟩ | ⟨-, h⟩
    · split at h
      · split at h
        · next s j read =>
          have := readDollarQuoted_bounds src read
          exact ending _ j h this.1 this.2
        · cases h
      · exact ending _ _ h (by omega) (by omega)
    rw [ite_eq_iff] at h
    rcases h with ⟨digit, h⟩ | ⟨-, h⟩
    · exact ending _ _ h (lt_readNumber src hc (.inl digit)) (readNumber_le src (by omega))
    rw [ite_eq_iff] at h
    rcases h with ⟨word, h⟩ | ⟨-, h⟩
    · exact ending _ _ h (lt_skipWhile src hc (isWordChar_of_isWordStart word) (by omega))
        (skipWhile_le src _ _ _ (by omega))
    · exact ending _ _ h (by omega) (by omega)

/-! ## Fuel -/

theorem skipWhile_settles (p : Char → Bool) :
    SettlesWithin (fun i => src.size - i) (skipWhile src p) := by
  refine SettlesWithin.of_round (fun i ended k => ?_) (fun f i _ later k => ?_)
  · have : src.get? i = none := SourceText.get?_eq_none (by omega)
    cases k <;> simp [skipWhile, this]
  · rw [Nat.add_right_comm]
    simp only [skipWhile]
    cases hc : src.get? i with
    | none => rfl
    | some c =>
      have := SourceText.lt_size_of_get? hc
      simp only
      split
      · exact later (i + 1) (by omega) k
      · rfl

theorem skipBlockComment_settles (start : Nat) :
    SettlesWithin (fun x : Nat × Nat => src.size - x.2 + 1)
      (fun f x => skipBlockComment src start f x.1 x.2) := by
  refine SettlesWithin.of_round (fun x ended => by omega) (fun f ⟨depth, i⟩ _ later k => ?_)
  rw [Nat.add_right_comm]
  simp only [skipBlockComment]
  split
  · rfl
  · next hi _ =>
    have := SourceText.lt_size_of_get? hi
    split
    · rfl
    · exact later (depth - 1, i + 2) (by simp only; omega) k
  · next hi _ =>
    have := SourceText.lt_size_of_get? hi
    exact later (depth + 1, i + 2) (by simp only; omega) k
  · next hi _ _ =>
    have := SourceText.lt_size_of_get? hi
    exact later (depth, i + 1) (by simp only; omega) k

theorem readQuoted_settles (q : Char) (what : String) (start : Nat) :
    SettlesWithin (fun x : List Char × Nat => src.size - x.2 + 1)
      (fun f x => readQuoted src q what start f x.1 x.2) := by
  refine SettlesWithin.of_round (fun x ended => by omega) (fun f ⟨acc, i⟩ _ later k => ?_)
  rw [Nat.add_right_comm]
  simp only [readQuoted]
  cases hc : src.get? i with
  | none => rfl
  | some c =>
    have := SourceText.lt_size_of_get? hc
    simp only
    split
    · split
      · exact later (q :: acc, i + 2) (by simp only; omega) k
      · rfl
    · exact later (c :: acc, i + 1) (by simp only; omega) k

theorem readEscaped_settles (start : Nat) :
    SettlesWithin (fun x : List Char × Nat => src.size - x.2 + 1)
      (fun f x => readEscaped src start f x.1 x.2) := by
  refine SettlesWithin.of_round (fun x ended => by omega) (fun f ⟨acc, i⟩ _ later k => ?_)
  rw [Nat.add_right_comm]
  simp only [readEscaped]
  split
  · rfl
  · next hc =>
    have := SourceText.lt_size_of_get? hc
    split
    · exact later (_, i + 2) (by simp only; omega) k
    · exact later (acc, i + 1) (by simp only; omega) k
  · next hc =>
    have := SourceText.lt_size_of_get? hc
    split
    · exact later (_, i + 2) (by simp only; omega) k
    · rfl
  · next c _ _ hc =>
    have := SourceText.lt_size_of_get? hc
    exact later (c :: acc, i + 1) (by simp only; omega) k

theorem findFrom_settles (pat : List Char) :
    SettlesWithin (fun i => src.size - i + 1) (findFrom src pat) := by
  refine SettlesWithin.of_round (fun i ended => by omega) (fun f i _ later k => ?_)
  rw [Nat.add_right_comm]
  simp only [findFrom]
  split
  · rfl
  · split
    · rfl
    · next missing =>
      -- the empty pattern is found at once, so a round that goes on looks at a character
      have : pat ≠ [] := by rintro rfl; simp at missing
      have := List.length_pos_iff.mpr this
      exact later (i + 1) (by omega) k

theorem readNumber.go_settles :
    SettlesWithin (fun x : Bool × Nat => src.size - x.2)
      (fun f x => readNumber.go src f x.1 x.2) := by
  refine SettlesWithin.of_round (fun ⟨hasDot, i⟩ ended k => ?_) (fun f ⟨hasDot, i⟩ _ later k => ?_)
  · have : src.get? i = none := SourceText.get?_eq_none (by simp only at ended; omega)
    cases k <;> simp [readNumber.go, this]
  · rw [Nat.add_right_comm]
    simp only [readNumber.go]
    cases hc : src.get? i with
    | none => rfl
    | some c =>
      have := SourceText.lt_size_of_get? hc
      simp only
      split
      · exact later (hasDot, i + 1) (by simp only; omega) k
      · split
        · exact later (true, i + 1) (by simp only; omega) k
        · split
          · next exponent =>
            have hnext : (src.get? (i + 1)).isSome := by
              revert exponent
              cases src.get? (i + 1) <;> simp
            have := SourceText.lt_size_of_get? (Option.get_mem hnext)
            exact later (hasDot, i + 2) (by simp only; omega) k
          · rfl

theorem nextToken_settles : SettlesWithin (fun i => src.size - i + 1) (nextToken src) := by
  refine SettlesWithin.of_round (fun i ended => by omega) (fun f i _ later k => ?_)
  rw [Nat.add_right_comm]
  have blank := skipWhile_ge src Unicode.isWhiteSpace src.size i
  simp only [nextToken]
  generalize skipWhile src Unicode.isWhiteSpace src.size i = i' at blank ⊢
  cases hc : src.get? i' with
  | none => rfl
  | some c =>
    have inside := SourceText.lt_size_of_get? hc
    simp only
    -- only the two kinds of comment hand the text on to another round
    refine if_congr Iff.rfl ?_ (if_congr Iff.rfl rfl (if_congr Iff.rfl ?_ rfl))
    · exact later _ (by have := skipLineComment_gt src inside src.size; omega) k
    · cases skipped : skipBlockComment src i' src.size 1 (i' + 2) with
      | ok j => exact later j (by have := skipBlockComment_bounds src _ _ _ _ _ skipped; omega) k
      | error e => rfl

theorem tokensFrom_settles :
    SettlesWithin (fun x : Nat × List Spanned => src.size - x.1 + 1)
      (fun f x => tokensFrom src f x.1 x.2) := by
  refine SettlesWithin.of_round (fun x ended => by omega) (fun f ⟨i, acc⟩ _ later k => ?_)
  rw [Nat.add_right_comm]
  simp only [tokensFrom]
  cases read : nextToken src (src.size + 1) i with
  | done => rfl
  | failed e => rfl
  | token t =>
    have := nextToken_span src _ _ _ read
    exact later (t.stop, t :: acc) (by simp only; omega) k

/-! ## The fuel the lexer passes -/

/-- Every loop of the SQL lexer, at each place it is called, runs on fuel that
never binds: any more fuel gives the same result. The comment and string
readers are called at a character of the text, one past their opening
character. -/
structure FuelSuffices (src : SourceText) : Prop where
  blanks : ∀ p i k, skipWhile src p (src.size + k) i = skipWhile src p src.size i
  blockComment : ∀ start, start < src.size → ∀ k,
    skipBlockComment src start (src.size + k) 1 (start + 2) =
      skipBlockComment src start src.size 1 (start + 2)
  quoted : ∀ q what start, start < src.size → ∀ k,
    readQuoted src q what start (src.size + k) [] (start + 1) =
      readQuoted src q what start src.size [] (start + 1)
  escaped : ∀ start, start < src.size → ∀ k,
    readEscaped src start (src.size + k) [] (start + 2) = readEscaped src start src.size [] (start + 2)
  delimiter : ∀ pat i k, findFrom src pat (src.size + 1 + k) i = findFrom src pat (src.size + 1) i
  number : ∀ hasDot i k,
    readNumber.go src (src.size + k) hasDot i = readNumber.go src src.size hasDot i
  token : ∀ i k, nextToken src (src.size + 1 + k) i = nextToken src (src.size + 1) i
  tokens : ∀ i acc k, tokensFrom src (src.size + 1 + k) i acc = tokensFrom src (src.size + 1) i acc
  /-- Each token is a nonempty run of the text, so every slice taken of it is in bounds. -/
  spans : ∀ f i t, nextToken src f i = .token t → i ≤ t.start ∧ t.start < t.stop ∧ t.stop ≤ src.size

theorem fuelSuffices : FuelSuffices src where
  blanks p i k := skipWhile_settles src p i _ (by dsimp only; omega) k
  blockComment start inside k := skipBlockComment_settles src start (1, start + 2) _ (by dsimp only; omega) k
  quoted q what start inside k := readQuoted_settles src q what start ([], start + 1) _ (by dsimp only; omega) k
  escaped start inside k := readEscaped_settles src start ([], start + 2) _ (by dsimp only; omega) k
  delimiter pat i k := findFrom_settles src pat i _ (by dsimp only; omega) k
  number hasDot i k := readNumber.go_settles src (hasDot, i) _ (by dsimp only; omega) k
  token i k := nextToken_settles src i _ (by dsimp only; omega) k
  tokens i acc k := tokensFrom_settles src (i, acc) _ (by dsimp only; omega) k
  spans := nextToken_span src

end Sql.Lexer

end Schemata
