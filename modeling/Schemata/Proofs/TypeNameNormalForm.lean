import Mathlib
import Schemata.Proofs.FrontEndFuel

/-!
# Normalizing a normalized type name

`normalizePostgres` folds the aliases of a PostgreSQL type name into one spelling, keeps the
modifier (from the first `(` to the last `)` after it, blanks removed) right after the base,
and keeps the array suffixes at the end. A second normalization reads the base and the
modifier back where the first one put them, so it changes nothing, as long as the modifier is
the last parenthesized part of the name (`ModifierLast`). A `(` after the modifier is moved
into the base by a first round and into the modifier by a second: `varchar(10) (` becomes
`varchar ((10)`, then `varchar((10)` (`normalizePostgres_paren_after_modifier`).

* Words and blanks: collapsing the blanks of a text (`collapsed`: its words set apart by single
  spaces) is idempotent, leaves the text trimmed and keeps its last word.
* `splitModifier_closed`, `splitModifier_unclosed`: the split of a name at its modifier, by
  where its first `(` and its last `)` stand.
* `CanonicalBase`: a base as a round leaves it. The spellings aliases fold into are canonical
  by computation; any other base is a collapsed text, canonical since collapsing is idempotent.
* `normalizePostgres_normalizePostgresChars`: the induction on the fuel, one array suffix per
  round, and `normalizePostgres_idempotent`, its case at the fuel `normalizePostgres` gives.
-/

namespace Schemata

namespace Unicode

/-! ## Words and blanks -/

/-- A word: a non-empty run of characters none of which is a blank. -/
def IsWord (w : List Char) : Prop := w ≠ [] ∧ ∀ c ∈ w, isWhiteSpace c = false

/-- Characters with their words set apart by single spaces, as a base name is written. -/
def collapsed (cs : List Char) : List Char := [' '].intercalate (blankSeparated cs)

/-- Characters that neither start nor end with a blank. -/
def Trimmed (cs : List Char) : Prop :=
  (∀ c ∈ cs.head?, isWhiteSpace c = false) ∧ ∀ c ∈ cs.getLast?, isWhiteSpace c = false

lemma blankSeparatedFrom_append_blank {b : Char} (blank : isWhiteSpace b = true) (ys : List Char) :
    ∀ word xs, blankSeparatedFrom word (xs ++ b :: ys) =
      blankSeparatedFrom word xs ++ blankSeparated ys
  | word, [] => by
    cases word <;> simp [blankSeparatedFrom, blank, blankSeparated]
  | word, c :: xs => by
    simp only [List.cons_append, blankSeparatedFrom]
    split
    · rw [blankSeparatedFrom_append_blank blank ys [] xs]
      split <;> simp
    · exact blankSeparatedFrom_append_blank blank ys (c :: word) xs

/-- A blank splits the words of a text in two. -/
lemma blankSeparated_append_blank {b : Char} (blank : isWhiteSpace b = true) (xs ys : List Char) :
    blankSeparated (xs ++ b :: ys) = blankSeparated xs ++ blankSeparated ys :=
  blankSeparatedFrom_append_blank blank ys [] xs

@[simp] lemma blankSeparated_nil : blankSeparated [] = [] := rfl

lemma blankSeparatedFrom_plain : ∀ (w word : List Char), (∀ c ∈ w, isWhiteSpace c = false) →
    blankSeparatedFrom word w = if (word.reverse ++ w).isEmpty then [] else [word.reverse ++ w]
  | [], word, _ => by simp [blankSeparatedFrom]
  | c :: w, word, plain => by
    simp only [List.forall_mem_cons] at plain
    simp [blankSeparatedFrom, plain.1, blankSeparatedFrom_plain w (c :: word) plain.2]

/-- A word is its own only word. -/
lemma blankSeparated_word {w : List Char} (word : IsWord w) : blankSeparated w = [w] := by
  simp [blankSeparated, blankSeparatedFrom_plain w [] word.2, word.1]

/-- The words of a text are words, made of its characters; `word` is the one begun. -/
lemma isWord_of_mem_blankSeparatedFrom : ∀ (cs word : List Char),
    (∀ c ∈ word, isWhiteSpace c = false) →
    ∀ w ∈ blankSeparatedFrom word cs, IsWord w ∧ ∀ c ∈ w, c ∈ word ∨ c ∈ cs
  | [], word, plain, w, mem => by
    by_cases empty : word = []
    · simp [blankSeparatedFrom, empty] at mem
    · simp only [blankSeparatedFrom, List.isEmpty_iff, empty, if_false, List.mem_singleton] at mem
      subst mem
      exact ⟨⟨by simpa using empty, fun c hc => plain c (List.mem_reverse.mp hc)⟩,
        fun c hc => .inl (List.mem_reverse.mp hc)⟩
  | c :: cs, word, plain, w, mem => by
    simp only [blankSeparatedFrom] at mem
    split at mem
    · -- a blank ends the word begun
      have flushed : w ∈ blankSeparatedFrom word [] ∨ w ∈ blankSeparatedFrom [] cs := by
        split at mem
        · exact .inr mem
        · rcases List.mem_cons.mp mem with rfl | mem
          · left
            simp_all [blankSeparatedFrom]
          · exact .inr mem
      rcases flushed with first | later
      · obtain ⟨isWord, within⟩ := isWord_of_mem_blankSeparatedFrom [] word plain w first
        exact ⟨isWord, fun d hd => .inl (by simpa using within d hd)⟩
      · obtain ⟨isWord, within⟩ :=
          isWord_of_mem_blankSeparatedFrom cs [] (by simp) w later
        exact ⟨isWord, fun d hd => .inr (List.mem_cons_of_mem _ (by simpa using within d hd))⟩
    · next notBlank =>
      have plain' : ∀ d ∈ c :: word, isWhiteSpace d = false := by
        simp only [Bool.not_eq_true] at notBlank
        exact List.forall_mem_cons.mpr ⟨notBlank, plain⟩
      obtain ⟨isWord, within⟩ := isWord_of_mem_blankSeparatedFrom cs (c :: word) plain' w mem
      refine ⟨isWord, fun d hd => ?_⟩
      rcases within d hd with inWord | inRest
      · rcases List.mem_cons.mp inWord with rfl | inWord
        · exact .inr (List.mem_cons_self ..)
        · exact .inl inWord
      · exact .inr (List.mem_cons_of_mem _ inRest)

lemma isWord_of_mem_blankSeparated {cs w : List Char} (mem : w ∈ blankSeparated cs) :
    IsWord w ∧ ∀ c ∈ w, c ∈ cs := by
  obtain ⟨isWord, within⟩ := isWord_of_mem_blankSeparatedFrom cs [] (by simp) w mem
  exact ⟨isWord, fun c hc => by simpa using within c hc⟩

lemma intercalate_append_of_ne_nil {α : Type} (sep : List α) :
    ∀ {xs ys : List (List α)}, xs ≠ [] → ys ≠ [] →
      sep.intercalate (xs ++ ys) = sep.intercalate xs ++ sep ++ sep.intercalate ys
  | [x], ys, _, hy => by
    rw [List.singleton_append, List.intercalate_cons_of_ne_nil hy, List.intercalate_singleton]
  | x :: x' :: xs, ys, _, hy => by
    rw [List.cons_append, List.intercalate_cons_of_ne_nil (by simp),
      intercalate_append_of_ne_nil sep (List.cons_ne_nil x' xs) hy, List.intercalate_cons_cons]
    simp only [List.append_assoc]

lemma mem_intercalate {α : Type} {sep : List α} {a : α} :
    ∀ {ws : List (List α)}, a ∈ sep.intercalate ws → a ∈ sep ∨ ∃ w ∈ ws, a ∈ w
  | [], mem => by simp at mem
  | [w], mem => .inr ⟨w, List.mem_singleton_self w, by simpa using mem⟩
  | w :: w' :: ws, mem => by
    rw [List.intercalate_cons_cons, List.mem_append, List.mem_append] at mem
    rcases mem with (inFirst | inSep) | inRest
    · exact .inr ⟨w, List.mem_cons_self .., inFirst⟩
    · exact .inl inSep
    · rcases mem_intercalate inRest with inSep | ⟨v, hv, inV⟩
      · exact .inl inSep
      · exact .inr ⟨v, List.mem_cons_of_mem _ hv, inV⟩

/-- Words set apart by single spaces split back into the same words. -/
lemma blankSeparated_intercalate : ∀ {ws : List (List Char)}, (∀ w ∈ ws, IsWord w) →
    blankSeparated ([' '].intercalate ws) = ws
  | [], _ => rfl
  | [w], words => by simpa using blankSeparated_word (words w (List.mem_singleton_self w))
  | w :: w' :: ws, words => by
    rw [List.intercalate_cons_cons, List.append_assoc, List.singleton_append,
      blankSeparated_append_blank (by decide), blankSeparated_word (words w (List.mem_cons_self ..)),
      blankSeparated_intercalate (fun v hv => words v (List.mem_cons_of_mem _ hv))]
    rfl

/-- Collapsing the blanks of a text twice is collapsing them once. -/
lemma collapsed_collapsed (cs : List Char) : collapsed (collapsed cs) = collapsed cs := by
  unfold collapsed
  rw [blankSeparated_intercalate fun w mem => (isWord_of_mem_blankSeparated mem).1]

/-- A blank at the end adds no word. -/
lemma collapsed_append_blank {b : Char} (blank : isWhiteSpace b = true) (cs : List Char) :
    collapsed (cs ++ [b]) = collapsed cs := by
  unfold collapsed
  rw [blankSeparated_append_blank blank cs [], blankSeparated_nil, List.append_nil]

/-- Collapsing adds no character but the space. -/
lemma mem_collapsed {cs : List Char} {c : Char} (mem : c ∈ collapsed cs) : c ∈ cs ∨ c = ' ' := by
  rcases mem_intercalate mem with isSpace | ⟨w, hw, inW⟩
  · exact .inr (List.mem_singleton.mp isSpace)
  · exact .inl ((isWord_of_mem_blankSeparated hw).2 c inW)

lemma trimmed_intercalate : ∀ {ws : List (List Char)}, (∀ w ∈ ws, IsWord w) →
    Trimmed ([' '].intercalate ws)
  | [], _ => by simp [Trimmed]
  | [w], words => by
    obtain ⟨nonempty, plain⟩ := words w (List.mem_singleton_self w)
    refine ⟨fun c hc => plain c ?_, fun c hc => plain c ?_⟩
    · simpa using List.mem_of_mem_head? hc
    · simpa using List.mem_of_mem_getLast? hc
  | w :: w' :: ws, words => by
    obtain ⟨nonempty, plain⟩ := words w (List.mem_cons_self ..)
    have rest : Trimmed ([' '].intercalate (w' :: ws)) :=
      trimmed_intercalate fun v hv => words v (List.mem_cons_of_mem _ hv)
    have restNonempty : [' '].intercalate (w' :: ws) ≠ [] := by
      cases ws <;> simp [List.intercalate_cons_cons, (words w' (by simp)).1]
    rw [List.intercalate_cons_cons]
    refine ⟨fun c hc => plain c ?_, fun c hc => rest.2 c ?_⟩
    · rw [List.append_assoc, List.head?_append_of_ne_nil _ nonempty] at hc
      exact List.mem_of_mem_head? hc
    · rwa [List.getLast?_append_of_ne_nil _ restNonempty] at hc

/-- Collapsed text neither starts nor ends with a blank. -/
lemma trimmed_collapsed (cs : List Char) : Trimmed (collapsed cs) :=
  trimmed_intercalate fun _ mem => (isWord_of_mem_blankSeparated mem).1

/-! ## Trimming -/

lemma dropTrailingBlanks_eq_rdropWhile (cs : List Char) :
    dropTrailingBlanks cs = cs.rdropWhile isWhiteSpace := rfl

/-- Trimming a trimmed text changes nothing. -/
lemma trim_of_trimmed {cs : List Char} (trimmed : Trimmed cs) :
    dropTrailingBlanks (dropBlanks cs) = cs := by
  have front : dropBlanks cs = cs := by
    refine List.dropWhile_eq_self_iff.mpr fun pos blank => ?_
    have := trimmed.1 cs[0] (by simp [List.head?_eq_getElem?, pos])
    simp_all
  rw [front, dropTrailingBlanks_eq_rdropWhile]
  refine List.rdropWhile_eq_self_iff.mpr fun nonempty blank => ?_
  have := trimmed.2 (cs.getLast nonempty) (by simp [List.getLast?_eq_some_getLast nonempty])
  simp_all

/-- Trimming leaves a text that neither starts nor ends with a blank. -/
lemma trimmed_trim (cs : List Char) : Trimmed (dropTrailingBlanks (dropBlanks cs)) := by
  rw [dropTrailingBlanks_eq_rdropWhile]
  obtain ⟨rest, split⟩ := List.rdropWhile_prefix isWhiteSpace (dropBlanks cs)
  refine ⟨fun c hc => ?_, fun c hc => ?_⟩
  · -- the first character is the first one left after the leading blanks
    have first : c ∈ (dropBlanks cs).head? := by
      rw [← split, List.head?_append_of_ne_nil _ (by rintro h; simp [h] at hc)]
      exact hc
    have := List.head?_dropWhile_not isWhiteSpace cs
    simp only [dropBlanks] at first
    rw [Option.mem_def] at first
    simpa [first] using this
  · have nonempty : (dropBlanks cs).rdropWhile isWhiteSpace ≠ [] := by
      rintro h
      simp [h] at hc
    have := List.rdropWhile_last_not isWhiteSpace _ nonempty
    rw [List.getLast?_eq_some_getLast nonempty, Option.mem_def, Option.some.injEq] at hc
    simpa [hc] using this

/-- Trimming cuts a run of leading characters and a run of trailing blanks. -/
lemma trim_infix (cs : List Char) :
    ∃ before after, cs = before ++ dropTrailingBlanks (dropBlanks cs) ++ after ∧
      ∀ c ∈ after, isWhiteSpace c = true := by
  refine ⟨cs.takeWhile isWhiteSpace, (dropBlanks cs).rtakeWhile isWhiteSpace, ?_,
    fun c hc => List.mem_rtakeWhile_imp hc⟩
  rw [dropTrailingBlanks_eq_rdropWhile, List.append_assoc, List.rdropWhile_append_rtakeWhile]
  exact List.takeWhile_append_dropWhile.symm

lemma mem_of_mem_trim {cs : List Char} {c : Char} (mem : c ∈ dropTrailingBlanks (dropBlanks cs)) :
    c ∈ cs := by
  obtain ⟨before, after, split, -⟩ := trim_infix cs
  rw [split]
  exact List.mem_append_left _ (List.mem_append_right _ mem)

/-- Trimmed texts joined are trimmed. -/
lemma Trimmed.append {xs ys : List Char} (front : Trimmed xs) (back : Trimmed ys) :
    Trimmed (xs ++ ys) := by
  refine ⟨fun c hc => ?_, fun c hc => ?_⟩
  · rw [List.head?_append] at hc
    cases first : xs.head? with
    | none => exact back.1 c (by simpa [first] using hc)
    | some x => exact front.1 c (by simpa [first] using hc)
  · rw [List.getLast?_append] at hc
    cases last : ys.getLast? with
    | none => exact front.2 c (by simpa [last] using hc)
    | some y => exact back.2 c (by simpa [last] using hc)

/-! ## The last word -/

/-- A trimmed text is its last word after nothing or after a blank. -/
lemma exists_lastWord {cs : List Char} (trimmed : Trimmed cs) (nonempty : cs ≠ []) :
    ∃ P W, cs = P ++ W ∧ IsWord W ∧ ∀ b ∈ P.getLast?, isWhiteSpace b = true := by
  refine ⟨cs.rdropWhile (!isWhiteSpace ·), cs.rtakeWhile (!isWhiteSpace ·),
    List.rdropWhile_append_rtakeWhile.symm, ⟨?_, fun c hc => ?_⟩, fun b hb => ?_⟩
  · rw [Ne, List.rtakeWhile_eq_nil_iff]
    intro none
    have := trimmed.2 _ (List.getLast?_eq_some_getLast nonempty)
    simp_all
  · simpa using List.mem_rtakeWhile_imp hc
  · have cut : cs.rdropWhile (!isWhiteSpace ·) ≠ [] := by
      rintro h
      simp [h] at hb
    have := List.rdropWhile_last_not _ _ cut
    rw [List.getLast?_eq_some_getLast cut, Option.mem_def, Option.some.injEq] at hb
    simpa [hb] using this

/-- Collapsing keeps the last word of a text, after nothing or after a space. -/
lemma collapsed_lastWord {P W : List Char} (word : IsWord W)
    (sep : ∀ b ∈ P.getLast?, isWhiteSpace b = true) :
    ∃ Q, collapsed (P ++ W) = Q ++ W ∧ ∀ b ∈ Q.getLast?, isWhiteSpace b = true := by
  cases P using List.reverseRecOn with
  | nil => exact ⟨[], by simp [collapsed, blankSeparated_word word], by simp⟩
  | append_singleton P b =>
    have blank : isWhiteSpace b = true := sep b (by simp)
    unfold collapsed
    rw [List.append_assoc, List.singleton_append, blankSeparated_append_blank blank,
      blankSeparated_word word]
    by_cases noWords : blankSeparated P = []
    · exact ⟨[], by simp [noWords], by simp⟩
    · refine ⟨[' '].intercalate (blankSeparated P) ++ [' '], ?_, fun b hb => ?_⟩
      · rw [intercalate_append_of_ne_nil _ noWords (List.cons_ne_nil _ _), List.intercalate_singleton]
      · simp only [List.getLast?_concat, Option.mem_def, Option.some.injEq] at hb
        subst hb
        decide

/-- Non-blank characters that end a text, its last word standing after nothing or after a
blank, end that word. -/
lemma suffix_of_plain {s Q W : List Char} (suffix : s <:+ Q ++ W)
    (plain : ∀ c ∈ s, isWhiteSpace c = false) (sep : ∀ b ∈ Q.getLast?, isWhiteSpace b = true) :
    s <:+ W := by
  obtain ⟨l, hl⟩ := suffix
  rcases List.append_eq_append_iff.mp hl with ⟨a, hQ, hs⟩ | ⟨c, -, hW⟩
  · -- `s` reaching into `Q` would hold the blank that ends `Q`
    cases a using List.reverseRecOn with
    | nil => exact ⟨[], by simp [hs]⟩
    | append_singleton a x =>
      have blank := sep x (by simp [hQ, ← List.append_assoc])
      have := plain x (by simp [hs])
      simp_all
  · exact ⟨c, hW.symm⟩

end Unicode

namespace TypeName

open Unicode

/-! ## Reading the parts of a type name -/

/-- The array test of `normalizePostgresChars` asks for the suffix `[]`. -/
lemma arraySuffix_iff (cs : List Char) :
    (cs.length ≥ 2 && cs.drop (cs.length - 2) == ['[', ']']) = true ↔ ['[', ']'] <:+ cs := by
  constructor
  · intro h
    simp only [Bool.and_eq_true, decide_eq_true_eq, beq_iff_eq] at h
    exact ⟨cs.take (cs.length - 2), by rw [← h.2, List.take_append_drop]⟩
  · rintro ⟨p, rfl⟩
    simp

lemma firstIndex?_of_not_mem {cs : List Char} {c : Char} (absent : c ∉ cs) :
    firstIndex? cs c = none := by
  simp only [firstIndex?, List.findIdx?_eq_none_iff, beq_eq_false_iff_ne]
  rintro x hx rfl
  exact absent hx

lemma firstIndex?_first {xs ys : List Char} {c : Char} (first : c ∉ xs) :
    firstIndex? (xs ++ c :: ys) c = some xs.length := by
  have skipped : xs.findIdx? (· == c) = none := firstIndex?_of_not_mem first
  simp [firstIndex?, skipped, List.findIdx?_cons]

lemma lastIndex?_append_of_not_mem {xs ys : List Char} {c : Char} (absent : c ∉ ys) :
    lastIndex? (xs ++ ys) c = lastIndex? xs c := by
  have skipped : ys.reverse.findIdx? (· == c) = none :=
    firstIndex?_of_not_mem (by simpa using absent)
  unfold lastIndex?
  rw [List.reverse_append, List.findIdx?_append, skipped]
  cases xs.reverse.findIdx? (· == c) <;> simp
  omega

lemma lastIndex?_last {xs ys : List Char} {c : Char} (last : c ∉ ys) :
    lastIndex? (xs ++ c :: ys) c = some xs.length := by
  rw [← List.singleton_append, ← List.append_assoc, lastIndex?_append_of_not_mem last]
  simp [lastIndex?, List.findIdx?_cons]

lemma lastIndex?_lt {cs : List Char} {c : Char} {i : Nat} (found : lastIndex? cs c = some i) :
    i < cs.length := by
  unfold lastIndex? at found
  obtain ⟨j, hj, rfl⟩ := Option.map_eq_some_iff.mp found
  obtain ⟨bound, -⟩ := List.findIdx?_eq_some_iff_getElem.mp hj
  simp only [List.length_reverse] at bound
  omega

/-- A character of a text stands somewhere for the last time. -/
lemma exists_last_split {cs : List Char} {c : Char} (mem : c ∈ cs) :
    ∃ xs ys, cs = xs ++ c :: ys ∧ c ∉ ys := by
  obtain ⟨l₁, l₂, notIn, split, -⟩ := List.exists_erase_eq (List.mem_reverse.mpr mem)
  refine ⟨l₂.reverse, l₁.reverse, ?_, by simpa using notIn⟩
  rw [← List.reverse_reverse cs, split]
  simp

lemma trim_ofList (cs : List Char) :
    trim (String.ofList cs) = String.ofList (dropTrailingBlanks (dropBlanks cs)) := by
  simp [trim]

/-- Words joined by single spaces are the collapsed text. -/
lemma intercalate_words (s : String) : " ".intercalate (words s) = String.ofList (collapsed s.toList) := by
  rw [← String.toList_inj]
  simp [words, collapsed, List.map_map, Function.comp_def]

/-- Without a `(` the whole name is the base, blanks collapsed. -/
lemma splitModifier_of_not_mem {raw : List Char} (absent : '(' ∉ raw) :
    splitModifier raw = (String.ofList (collapsed raw), none) := by
  simp [splitModifier, firstIndex?_of_not_mem absent, intercalate_words]

/-- A modifier closed by a later `)`: the base is what stands before the `(` and after the last
`)`, and the modifier keeps the non-blank characters between them. -/
lemma splitModifier_closed {xs u v : List Char} (first : '(' ∉ xs) (last : ')' ∉ v) :
    splitModifier (xs ++ '(' :: u ++ ')' :: v) =
      (String.ofList (collapsed (dropTrailingBlanks (dropBlanks xs) ++
          ' ' :: dropTrailingBlanks (dropBlanks v))),
        some (String.ofList ('(' :: u.filter (!isWhiteSpace ·)) ++ ")")) := by
  have opens : firstIndex? (xs ++ '(' :: u ++ ')' :: v) '(' = some xs.length := by
    rw [List.append_assoc, List.cons_append]
    exact firstIndex?_first first
  have closes : lastIndex? (xs ++ '(' :: u ++ ')' :: v) ')' = some (xs.length + 1 + u.length) := by
    rw [lastIndex?_last last]
    simp
    omega
  have inside : (xs ++ '(' :: u ++ ')' :: v).take (xs.length + 1 + u.length) = xs ++ '(' :: u :=
    List.take_left' (by simp; omega)
  have after : (xs ++ '(' :: u ++ ')' :: v).drop (xs.length + 1 + u.length + 1) = v := by
    rw [show xs ++ '(' :: u ++ ')' :: v = (xs ++ '(' :: u ++ [')']) ++ v by simp]
    exact List.drop_left' (by simp; omega)
  have front : (xs ++ '(' :: u ++ ')' :: v).take xs.length = xs := by
    rw [List.append_assoc]
    exact List.take_left' rfl
  have opensPlain : isWhiteSpace '(' = false := by decide
  unfold splitModifier
  simp only [opens, closes, show xs.length + 1 + u.length > xs.length by omega, if_true, inside,
    after, front, List.drop_left', trim_ofList, intercalate_words]
  simp [opensPlain]

/-- A modifier that no later `)` closes runs to the end, and the base is what stands before it. -/
lemma splitModifier_unclosed {xs ys : List Char} (first : '(' ∉ xs) (unclosed : ')' ∉ ys) :
    splitModifier (xs ++ '(' :: ys) =
      (String.ofList (collapsed (dropTrailingBlanks (dropBlanks xs) ++ [' '])),
        some (String.ofList ('(' :: ys.filter (!isWhiteSpace ·)) ++ ")")) := by
  have closes : lastIndex? (xs ++ '(' :: ys) ')' = lastIndex? xs ')' :=
    lastIndex?_append_of_not_mem (by simpa using unclosed)
  have front : (xs ++ '(' :: ys).take xs.length = xs := List.take_left' rfl
  have opensPlain : isWhiteSpace '(' = false := by decide
  have whole : (xs ++ '(' :: ys).take (xs.length + (ys.length + 1)) = xs ++ '(' :: ys :=
    List.take_of_length_le (by simp)
  have past : (xs ++ '(' :: ys).drop (xs.length + (ys.length + 1) + 1) = [] :=
    List.drop_eq_nil_of_le (by simp)
  have nothingAfter : (trim "").toList = [] := by simp [trim, dropBlanks, dropTrailingBlanks]
  unfold splitModifier
  simp only [firstIndex?_first first, closes]
  -- a `)` before the `(` closes nothing, so the modifier runs to the end
  cases found : lastIndex? xs ')' with
  | none =>
    simp [front, whole, past, nothingAfter, trim_ofList, intercalate_words, opensPlain]
  | some c =>
    have before := lastIndex?_lt found
    simp [front, whole, past, nothingAfter, trim_ofList, intercalate_words, opensPlain,
      Nat.not_lt.mpr before.le]

/-- The modifier of a type name is its last parenthesized part: no `(` follows the last `)`
that closes one. -/
def ModifierLast (cs : List Char) : Prop :=
  ∀ xs ys, cs = xs ++ ')' :: ys → '(' ∈ xs → ')' ∉ ys → '(' ∉ ys

/-- Cutting characters off the front keeps the modifier last. -/
lemma ModifierLast.of_append_left {before cs : List Char} (last : ModifierLast (before ++ cs)) :
    ModifierLast cs := by
  rintro xs ys rfl opens closes
  exact last (before ++ xs) ys (by simp) (List.mem_append_right _ opens) closes

/-- Cutting characters other than `)` off the back keeps the modifier last. -/
lemma ModifierLast.of_append_right {cs after : List Char} (last : ModifierLast (cs ++ after))
    (noClose : ')' ∉ after) : ModifierLast cs := by
  rintro xs ys rfl opens closes inYs
  have := last xs (ys ++ after) (by simp) opens (by simp [closes, noClose])
  exact this (List.mem_append_left _ inYs)

/-- A name ending with `)` has its modifier last. -/
lemma modifierLast_of_getLast {cs : List Char} (ends : cs.getLast? = some ')') :
    ModifierLast cs := by
  rintro xs ys rfl - closes
  -- the last `)` is the last character, so nothing follows it
  cases ys using List.reverseRecOn with
  | nil => simp
  | append_singleton ys y =>
    rw [← List.cons_append, ← List.append_assoc, List.getLast?_concat, Option.some.injEq] at ends
    exact absurd (ends ▸ List.mem_concat_self ..) closes

/-- The shape of the split of a name with a `(`: a collapsed base and a blank-free modifier, the
base free of `(` when the modifier is last. -/
lemma splitModifier_of_mem {raw : List Char} (opens : '(' ∈ raw) :
    ∃ X A, (∀ c ∈ A, isWhiteSpace c = false) ∧
      splitModifier raw = (String.ofList (collapsed X), some (String.ofList ('(' :: A) ++ ")")) ∧
      (ModifierLast raw → '(' ∉ X) := by
  obtain ⟨xs, ys, first, rfl, -⟩ := List.exists_erase_eq opens
  have filtered : ∀ cs : List Char, ∀ c ∈ cs.filter (!isWhiteSpace ·), isWhiteSpace c = false :=
    fun cs c hc => by simpa using (List.mem_filter.mp hc).2
  by_cases closed : ')' ∈ ys
  · obtain ⟨u, v, rfl, last⟩ := exists_last_split closed
    refine ⟨dropTrailingBlanks (dropBlanks xs) ++ ' ' :: dropTrailingBlanks (dropBlanks v), _,
      filtered u, ?_, fun modifierLast => ?_⟩
    · rw [← List.cons_append, ← List.append_assoc]
      exact splitModifier_closed first last
    -- nothing after the closing `)` opens a parenthesis, so neither part of the base does
    have noOpen : '(' ∉ v := modifierLast (xs ++ '(' :: u) v (by simp)
      (List.mem_append_right _ (List.mem_cons_self ..)) last
    intro inBase
    rcases List.mem_append.mp inBase with inFront | inBack
    · exact first (mem_of_mem_trim inFront)
    · rcases List.mem_cons.mp inBack with isSpace | inBack
      · cases isSpace
      · exact noOpen (mem_of_mem_trim inBack)
  · refine ⟨_, _, filtered ys, splitModifier_unclosed first closed, fun _ inBase => ?_⟩
    rcases List.mem_append.mp inBase with inFront | isSpace
    · exact first (mem_of_mem_trim inFront)
    · simp at isSpace

/-! ## One round of normalization -/

/-- The spelling an alias folds into, or the base itself. -/
def canonicalOf (base : String) : String := (postgresAlias? (lowercase base)).getD base

/-- A name ending with `[]` is its element type normalized, then `[]`. -/
lemma normalizePostgresChars_array (f : Nat) {cs p : List Char}
    (array : dropTrailingBlanks (dropBlanks cs) = p ++ ['[', ']']) :
    normalizePostgresChars (f + 1) cs = normalizePostgresChars f p ++ "[]" := by
  have suffix : ['[', ']'] <:+ dropTrailingBlanks (dropBlanks cs) := ⟨p, array.symm⟩
  rw [normalizePostgresChars, if_pos ((arraySuffix_iff _).mpr suffix), array]
  simp

/-- Any other name is its base, folded, then its modifier. -/
lemma normalizePostgresChars_plain (f : Nat) {cs : List Char}
    (plain : ¬ ['[', ']'] <:+ dropTrailingBlanks (dropBlanks cs)) :
    normalizePostgresChars (f + 1) cs =
      canonicalOf (splitModifier (dropTrailingBlanks (dropBlanks cs))).1 ++
        ((splitModifier (dropTrailingBlanks (dropBlanks cs))).2.getD "") := by
  rw [normalizePostgresChars, if_neg (mt (arraySuffix_iff _).mp plain)]
  cases splitModifier (dropTrailingBlanks (dropBlanks cs)) with
  | mk base modifier => cases modifier <;> simp [canonicalOf]

/-- A trimmed text ends with `[]` when its collapsed form does. -/
lemma arraySuffix_of_collapsed {cs : List Char} (trimmed : Trimmed cs)
    (suffix : ['[', ']'] <:+ collapsed cs) : ['[', ']'] <:+ cs := by
  rcases eq_or_ne cs [] with rfl | nonempty
  · simp [collapsed] at suffix
  obtain ⟨P, W, rfl, word, sep⟩ := exists_lastWord trimmed nonempty
  obtain ⟨Q, collapsedQ, sepQ⟩ := collapsed_lastWord word sep
  rw [collapsedQ] at suffix
  exact (suffix_of_plain suffix (by simp [isWhiteSpace]) sepQ).trans (List.suffix_append P W)

/-! ## Canonical base names -/

/-- The spellings that aliases fold into. -/
def aliasSpellings : List String :=
  ["integer", "bigint", "smallint", "serial", "bigserial", "smallserial", "real",
    "double precision", "numeric", "boolean", "varchar", "char", "timestamp", "timestamptz",
    "time", "timetz", "bit varying"]

lemma postgresAlias?_mem {s v : String} (folds : postgresAlias? s = some v) : v ∈ aliasSpellings := by
  unfold postgresAlias? at folds
  split at folds <;> simp_all [aliasSpellings]

lemma canonicalOf_eq_or_mem (base : String) :
    canonicalOf base = base ∨ canonicalOf base ∈ aliasSpellings := by
  unfold canonicalOf
  cases folds : postgresAlias? (lowercase base) with
  | none => exact .inl rfl
  | some v => exact .inr (postgresAlias?_mem folds)

/-- A base name as normalization leaves it: trimmed, without `(`, and its own canonical
spelling once its blanks are collapsed. -/
structure CanonicalBase (c : String) : Prop where
  noOpen : '(' ∉ c.toList
  trimmed : Trimmed c.toList
  fixed : canonicalOf (String.ofList (collapsed c.toList)) = c

/-- Every spelling an alias folds into is a canonical base and no array type. -/
lemma canonicalBase_of_mem_aliasSpellings {v : String} (spelling : v ∈ aliasSpellings) :
    CanonicalBase v ∧ ¬ ['[', ']'] <:+ v.toList := by
  simp only [aliasSpellings, List.mem_cons, List.not_mem_nil, or_false] at spelling
  rcases spelling with rfl | rfl | rfl | rfl | rfl | rfl | rfl | rfl | rfl | rfl | rfl | rfl |
    rfl | rfl | rfl | rfl | rfl <;>
  exact ⟨⟨by decide, by simp [Trimmed, isWhiteSpace], by decide⟩, by decide⟩

lemma trimmed_canonicalOf (X : List Char) :
    Trimmed (canonicalOf (String.ofList (collapsed X))).toList := by
  rcases canonicalOf_eq_or_mem (String.ofList (collapsed X)) with same | spelling
  · rw [same, String.toList_ofList]
    exact trimmed_collapsed X
  · exact (canonicalBase_of_mem_aliasSpellings spelling).1.trimmed

/-- The folded base of a name is canonical when no `(` is in it. -/
lemma canonicalBase_canonicalOf {X : List Char} (noOpen : '(' ∉ X) :
    CanonicalBase (canonicalOf (String.ofList (collapsed X))) := by
  rcases canonicalOf_eq_or_mem (String.ofList (collapsed X)) with same | spelling
  · refine ⟨fun inBase => ?_, trimmed_canonicalOf X, ?_⟩
    · rw [same, String.toList_ofList] at inBase
      rcases mem_collapsed inBase with inX | isSpace
      · exact noOpen inX
      · exact absurd isSpace (by decide)
    · rw [same, String.toList_ofList, collapsed_collapsed, same]
  · exact (canonicalBase_of_mem_aliasSpellings spelling).1

lemma trimmed_modifier (A : List Char) : Trimmed ('(' :: A ++ [')']) := by
  refine ⟨fun c hc => ?_, fun c hc => ?_⟩
  · simp only [List.cons_append, List.head?_cons, Option.mem_def, Option.some.injEq] at hc
    subst hc
    decide
  · simp only [List.getLast?_concat, Option.mem_def, Option.some.injEq] at hc
    subst hc
    decide

lemma toList_append_array (s : String) : (s ++ "[]").toList = s.toList ++ ['[', ']'] := by
  simp

lemma not_arraySuffix_modifier (cs : List Char) : ¬ ['[', ']'] <:+ cs ++ [')'] := by
  rintro ⟨p, hp⟩
  have := congrArg List.getLast? hp
  simp at this

/-- The folded base of a trimmed name that is no array type is no array type either. -/
lemma not_arraySuffix_canonicalOf {cs : List Char} (trimmed : Trimmed cs)
    (plain : ¬ ['[', ']'] <:+ cs) :
    ¬ ['[', ']'] <:+ (canonicalOf (String.ofList (collapsed cs))).toList := by
  rcases canonicalOf_eq_or_mem (String.ofList (collapsed cs)) with same | spelling
  · rw [same, String.toList_ofList]
    exact fun suffix => plain (arraySuffix_of_collapsed trimmed suffix)
  · exact (canonicalBase_of_mem_aliasSpellings spelling).2

/-! ## Normal forms are fixed -/

/-- A canonical base that is no array type normalizes to itself. -/
lemma normalizePostgres_of_canonicalBase {c : String} (base : CanonicalBase c)
    (notArray : ¬ ['[', ']'] <:+ c.toList) : normalizePostgres c = c := by
  have trimmed := trim_of_trimmed base.trimmed
  rw [normalizePostgres, normalizePostgresChars_plain _ (by rwa [trimmed]), trimmed,
    splitModifier_of_not_mem base.noOpen]
  simpa using base.fixed

/-- A canonical base followed by a blank-free modifier normalizes to itself. -/
lemma normalizePostgres_of_canonicalBase_modifier {c : String} (base : CanonicalBase c)
    {A : List Char} (plain : ∀ a ∈ A, isWhiteSpace a = false) :
    normalizePostgres (c ++ (String.ofList ('(' :: A) ++ ")")) =
      c ++ (String.ofList ('(' :: A) ++ ")") := by
  have chars : (c ++ (String.ofList ('(' :: A) ++ ")")).toList = c.toList ++ '(' :: A ++ [')'] := by
    simp
  have trimmed : dropTrailingBlanks (dropBlanks (c ++ (String.ofList ('(' :: A) ++ ")")).toList) =
      c.toList ++ '(' :: A ++ [')'] := by
    rw [chars, List.append_assoc]
    exact trim_of_trimmed (base.trimmed.append (trimmed_modifier A))
  have notArray : ¬ ['[', ']'] <:+ c.toList ++ '(' :: A ++ [')'] := not_arraySuffix_modifier _
  have nothingAfter : dropTrailingBlanks (dropBlanks []) = [] := rfl
  rw [normalizePostgres, normalizePostgresChars_plain _ (by rwa [trimmed]), trimmed,
    splitModifier_closed base.noOpen List.not_mem_nil, trim_of_trimmed base.trimmed, nothingAfter,
    collapsed_append_blank (by decide), List.filter_eq_self.mpr (by simpa using plain), base.fixed]
  rfl

/-- Appending `[]` to a trimmed fixed point gives a fixed point. -/
lemma normalizePostgres_append_array {s : String} (fixed : normalizePostgres s = s)
    (trimmed : Trimmed s.toList) : normalizePostgres (s ++ "[]") = s ++ "[]" := by
  have trim : dropTrailingBlanks (dropBlanks (s ++ "[]").toList) = s.toList ++ ['[', ']'] := by
    rw [toList_append_array]
    exact trim_of_trimmed (trimmed.append (by simp [Trimmed, isWhiteSpace]))
  have fuel : (s ++ "[]").length = s.length + 1 + 1 := by
    rw [← String.length_toList, toList_append_array, List.length_append, String.length_toList]
    rfl
  rw [normalizePostgres, normalizePostgresChars_array _ trim, fuel,
    normalizePostgresChars_settles s.toList (s.length + 1) (by simp [String.length_toList]) 1]
  exact congrArg (· ++ "[]") fixed

/-- A normalized name neither starts nor ends with a blank. -/
theorem trimmed_normalizePostgresChars : ∀ f cs, Trimmed (normalizePostgresChars f cs).toList
  | 0, _ => by simp [normalizePostgresChars, Trimmed]
  | f + 1, cs => by
    by_cases array : ['[', ']'] <:+ dropTrailingBlanks (dropBlanks cs)
    · obtain ⟨p, hp⟩ := array
      rw [normalizePostgresChars_array f hp.symm, toList_append_array]
      exact (trimmed_normalizePostgresChars f p).append (by simp [Trimmed, isWhiteSpace])
    · rw [normalizePostgresChars_plain f array]
      by_cases opens : '(' ∈ dropTrailingBlanks (dropBlanks cs)
      · obtain ⟨X, A, -, split, -⟩ := splitModifier_of_mem opens
        rw [split]
        simpa using (trimmed_canonicalOf X).append (trimmed_modifier A)
      · rw [splitModifier_of_not_mem opens]
        simpa using trimmed_canonicalOf _

/-- **A normalized name is a fixed point**, at any fuel, when the modifier of the name is
last. The induction is on the fuel, one array suffix per round; a round without one leaves a
canonical base and a blank-free modifier, which the next normalization reads back unchanged. -/
theorem normalizePostgres_normalizePostgresChars : ∀ (f : Nat) (cs : List Char), ModifierLast cs →
    normalizePostgres (normalizePostgresChars f cs) = normalizePostgresChars f cs
  | 0, _, _ => by
    rw [normalizePostgresChars]
    decide
  | f + 1, cs, last => by
    -- trimming cuts blanks, no `)`, off the back
    have lastRaw : ModifierLast (dropTrailingBlanks (dropBlanks cs)) := by
      obtain ⟨front, back, split, blanks⟩ := trim_infix cs
      rw [split] at last
      exact last.of_append_right (fun closes => absurd (blanks _ closes) (by decide))
        |>.of_append_left
    by_cases array : ['[', ']'] <:+ dropTrailingBlanks (dropBlanks cs)
    · obtain ⟨p, hp⟩ := array
      rw [normalizePostgresChars_array f hp.symm]
      rw [← hp] at lastRaw
      exact normalizePostgres_append_array
        (normalizePostgres_normalizePostgresChars f p (lastRaw.of_append_right (by decide)))
        (trimmed_normalizePostgresChars f p)
    · rw [normalizePostgresChars_plain f array]
      by_cases opens : '(' ∈ dropTrailingBlanks (dropBlanks cs)
      · obtain ⟨X, A, plain, split, noOpen⟩ := splitModifier_of_mem opens
        rw [split]
        exact normalizePostgres_of_canonicalBase_modifier
          (canonicalBase_canonicalOf (noOpen lastRaw)) plain
      · rw [splitModifier_of_not_mem opens, Option.getD_none, String.append_empty]
        exact normalizePostgres_of_canonicalBase (canonicalBase_canonicalOf opens)
          (not_arraySuffix_canonicalOf (trimmed_trim cs) array)

/-- **Normalization is idempotent** for every type name whose modifier is last: no `(`
follows the last `)` that closes one. -/
theorem normalizePostgres_idempotent (t : String) (last : ModifierLast t.toList) :
    normalizePostgres (normalizePostgres t) = normalizePostgres t :=
  normalizePostgres_normalizePostgresChars _ t.toList last

theorem normalizePostgres_idempotent_varchar :
    ModifierLast "character varying (255)".toList ∧
      normalizePostgres (normalizePostgres "character varying (255)") =
        normalizePostgres "character varying (255)" :=
  ⟨modifierLast_of_getLast (by decide),
    normalizePostgres_idempotent _ (modifierLast_of_getLast (by decide))⟩

/-- A `(` after the modifier moves into the base, and the next round moves it into the
modifier: normalization is not idempotent on such names. -/
theorem normalizePostgres_paren_after_modifier :
    normalizePostgres "varchar(10) (" = "varchar ((10)" ∧
      normalizePostgres "varchar ((10)" = "varchar((10)" := by
  decide

end TypeName

end Schemata
