import Mathlib
import Schemata.Tbls.Convert

/-!
# Reading index definitions

A tbls document gives each index as the PostgreSQL text that defines it,
`CREATE [UNIQUE] INDEX name ON [ONLY] table [USING method] (columns) [WHERE predicate]`.
The conversion lowercases that text, takes the index as unique when `unique` occurs in it
anywhere, and takes as its method the word after the first `using` that blanks and a word
follow.

Main statement (`convertIndex_of_definition`): when the index name, the table, the method,
the columns and the predicate contain neither `unique` nor `using` in any letter case, and the
method lowercases to a word of word characters, the converted index is unique exactly when the definition says
`UNIQUE`, and its method is the lowercased method of the `USING` clause, or empty without one.
The two words inside a name are where the reading goes wrong (`convertIndex_misreads_names`):
an index named with `unique` reads as unique, and one named with `using` takes `on` for its
method.

The proof needs two facts about the lowercased text that hold for any names:

* lowercasing is done letter by letter, except that a capital sigma becomes a final or a small
  sigma by its neighbours (`map_foldSigma_lowerFrom`), and neither sigma is in a searched word;
* a word without blanks or brackets is found in a text cut at a blank or a bracket only inside
  one of the two parts (`infix_append_cons_iff`), so in a definition only inside one of its
  keywords or one of the texts it fills in (`infix_text_iff`).
-/

namespace Schemata

namespace Unicode

/-! ## Lowercase, letter by letter -/

/-- The small sigma in place of the final one: what lowercasing a whole text may write for a
capital sigma. -/
def foldSigma (c : Char) : Char := if c = 'ς' then 'σ' else c

/-- The lowercase of one character, a capital sigma taken to the small one. -/
def lowerFolded (c : Char) : List Char := (if c = 'Σ' then ['σ'] else lowerChars c).map foldSigma

/-- What lowercasing writes for one character, whichever sigma it chooses. -/
lemma map_foldSigma_lowerStep (c : Char) (final : Bool) :
    (if (c == 'Σ') = true then (if final = true then ['ς'] else ['σ']) else lowerChars c).map
      foldSigma = lowerFolded c := by
  by_cases sigma : c = 'Σ'
  · subst sigma
    cases final <;> rfl
  · simp [sigma, lowerFolded]

/-- Lowercasing a text that is cut in two: the first part is written letter by letter up to the
choice of sigma, and the second part is lowercased with the first part behind it. -/
lemma lowerFrom_append (before x y : List Char) :
    ∃ lowered, lowerFrom before (x ++ y) = lowered ++ lowerFrom (x.reverse ++ before) y ∧
      lowered.map foldSigma = x.flatMap lowerFolded := by
  induction x generalizing before with
  | nil => exact ⟨[], rfl, rfl⟩
  | cons c x ih =>
    obtain ⟨lowered, split, folded⟩ := ih (c :: before)
    let final := casedAfterIgnorable before && !casedAfterIgnorable (x ++ y)
    refine ⟨(if (c == 'Σ') = true then (if final = true then ['ς'] else ['σ']) else lowerChars c) ++
      lowered, ?_, ?_⟩
    · rw [List.cons_append, lowerFrom, split, List.reverse_cons]
      simp only [List.append_assoc, List.singleton_append]
      rfl
    · rw [List.map_append, folded, map_foldSigma_lowerStep, List.flatMap_cons]

/-- **Lowercasing is letter by letter** once the two small sigmas are taken as one. -/
lemma map_foldSigma_lowerFrom (before cs : List Char) :
    (lowerFrom before cs).map foldSigma = cs.flatMap lowerFolded := by
  obtain ⟨lowered, split, folded⟩ := lowerFrom_append before cs []
  rw [List.append_nil] at split
  rw [split, lowerFrom, List.append_nil, folded]

/-- Text without a capital sigma lowercases letter by letter, whatever stands around it. -/
lemma lowerFrom_append_of_not_sigma {x : List Char} (noSigma : 'Σ' ∉ x) (before y : List Char) :
    lowerFrom before (x ++ y) = x.flatMap lowerChars ++ lowerFrom (x.reverse ++ before) y := by
  induction x generalizing before with
  | nil => rfl
  | cons c x ih =>
    have notSigma : (c == 'Σ') = false := by
      rw [beq_eq_false_iff_ne]
      rintro rfl
      exact noSigma (by simp)
    rw [List.cons_append, lowerFrom, ih (fun inX => noSigma (List.mem_cons_of_mem c inX)),
      List.reverse_cons, List.append_assoc, List.singleton_append]
    simp [notSigma]

lemma lowercase_of_not_sigma {s : String} (noSigma : 'Σ' ∉ s.toList) :
    lowercase s = String.ofList (s.toList.flatMap lowerChars) := by
  have whole := lowerFrom_append_of_not_sigma noSigma [] []
  rw [List.append_nil, lowerFrom, List.append_nil] at whole
  rw [lowercase, whole]

lemma map_foldSigma_of_not_mem {l : List Char} (h : 'ς' ∉ l) : l.map foldSigma = l := by
  induction l with
  | nil => rfl
  | cons c l ih =>
    have notFinal : c ≠ 'ς' := fun e => h (by simp [e])
    simp only [List.mem_cons, not_or] at h
    simp [foldSigma, notFinal, ih h.2]

lemma eq_of_map_foldSigma {l p : List Char} (h : l.map foldSigma = p) (noSigma : 'σ' ∉ p) :
    l = p := by
  induction l generalizing p with
  | nil => exact h
  | cons c l ih =>
    obtain ⟨q, qs, rfl⟩ : ∃ q qs, p = q :: qs := ⟨_, _, h.symm⟩
    rw [List.map_cons, List.cons.injEq] at h
    simp only [List.mem_cons, not_or] at noSigma
    have same : c = q := by
      rw [foldSigma] at h
      split at h
      · exact absurd h.1 noSigma.1
      · exact h.1
    rw [same, ih h.2 noSigma.2]

/-- A word without sigmas is found in a text exactly when it is found once its final sigmas are
made small ones. -/
lemma infix_map_foldSigma {pat l : List Char} (small : 'σ' ∉ pat) (final : 'ς' ∉ pat) :
    pat <:+: l.map foldSigma ↔ pat <:+: l := by
  constructor
  · rintro ⟨s, t, split⟩
    obtain ⟨front, t', rfl, front_map, -⟩ := List.map_eq_append_iff.mp split.symm
    obtain ⟨s', p', rfl, -, middle⟩ := List.map_eq_append_iff.mp front_map
    rw [eq_of_map_foldSigma middle small] at *
    exact ⟨s', t', by simp⟩
  · intro inside
    simpa [map_foldSigma_of_not_mem final] using inside.map foldSigma

/-- A word without sigmas is found in the lowercase of a text exactly when it is found in the
text lowercased letter by letter. -/
lemma infix_lowercase_iff {pat : List Char} (small : 'σ' ∉ pat) (final : 'ς' ∉ pat) (s : String) :
    pat <:+: (lowercase s).toList ↔ pat <:+: s.toList.flatMap lowerFolded := by
  rw [lowercase, String.toList_ofList, ← map_foldSigma_lowerFrom [],
    infix_map_foldSigma small final]

end Unicode

namespace TextSearch

/-! ## Finding a word in cut text -/

lemma occursIn_iff_infix {pat l : List Char} : occursIn pat l = true ↔ pat <:+: l := by
  induction l with
  | nil => cases pat <;> simp [occursIn]
  | cons c l ih =>
    rw [occursIn, Bool.or_eq_true, List.isPrefixOf_iff_prefix, ih, List.infix_cons_iff]

/-- A word is found across a cut only if it holds the first letter after the cut. -/
lemma infix_append_of_head {pat : List Char} (a : List Char) {b : List Char}
    (head : ∀ c ∈ b.head?, c ∉ pat) : pat <:+: a ++ b ↔ pat <:+: a ∨ pat <:+: b := by
  rw [List.infix_append_iff_ne_nil]
  constructor
  · rintro (inA | inB | ⟨l₁, l₂, -, nonempty, rfl, -, start⟩)
    · exact .inl inA
    · exact .inr inB
    · -- the part after the cut begins `b`, so the word holds `b`'s first letter
      obtain ⟨x, xs, rfl⟩ := List.exists_cons_of_ne_nil nonempty
      obtain ⟨t, rfl⟩ := start
      exact absurd (by simp) (head x (by simp))
  · rintro (inA | inB)
    · exact .inl inA
    · exact .inr (.inl inB)

/-- A word without `sep` is found after a `sep` only after it. -/
lemma infix_cons_of_not_mem {pat : List Char} {sep : Char} (h : sep ∉ pat) (b : List Char) :
    pat <:+: sep :: b ↔ pat <:+: b := by
  rw [List.infix_cons_iff]
  constructor
  · rintro (start | inB)
    · cases pat with
      | nil => exact List.nil_infix
      | cons p ps =>
        obtain ⟨same, -⟩ := List.cons_prefix_cons.mp start
        exact absurd (by simp [same]) h
    · exact inB
  · exact .inr

/-- A word without `sep` is found across a `sep` only on one side of it. -/
lemma infix_append_cons_iff {pat : List Char} {sep : Char} (h : sep ∉ pat) (a b : List Char) :
    pat <:+: a ++ sep :: b ↔ pat <:+: a ∨ pat <:+: b := by
  rw [infix_append_of_head a (by simpa using h), infix_cons_of_not_mem h]

/-- A word that holds no letter of `b`'s first is a prefix of `a ++ b` only as a prefix of `a`. -/
lemma prefix_of_prefix_append {pat a b : List Char} (pre : pat <+: a ++ b)
    (head : ∀ c ∈ b.head?, c ∉ pat) : pat <+: a := by
  induction a generalizing pat with
  | nil =>
    cases pat with
    | nil => exact List.nil_prefix
    | cons p ps =>
      obtain ⟨t, hb⟩ := pre
      rw [List.nil_append] at hb
      exact absurd (by simp) (head p (by simp [← hb]))
  | cons c a ih =>
    cases pat with
    | nil => exact List.nil_prefix
    | cons p ps =>
      rw [List.cons_append, List.cons_prefix_cons] at pre
      rw [List.cons_prefix_cons]
      exact ⟨pre.1, ih pre.2 fun d hd inPs => head d hd (List.mem_cons_of_mem _ inPs)⟩

end TextSearch

end Schemata

namespace Schemata

namespace Tbls

open Unicode TextSearch

/-! ## The search for a `using` clause -/

lemma usingAt_eq_none {cs : List Char} (h : ¬ "using".toList <+: cs) : usingAt cs = none := by
  unfold usingAt
  split
  · exact absurd (by simp) h
  · rfl

/-- The search for a `using` clause passes over text that does not hold the word, when what
follows cannot complete one begun in it. -/
lemma usingMethod?_append {a b : List Char} (absent : ¬ "using".toList <:+: a)
    (head : ∀ c ∈ b.head?, c ∉ "using".toList) : usingMethod? (a ++ b) = usingMethod? b := by
  induction a with
  | nil => rfl
  | cons c a ih =>
    have notHere : ¬ "using".toList <+: c :: (a ++ b) := fun start =>
      absent (prefix_of_prefix_append (a := c :: a) start head).isInfix
    rw [List.cons_append, usingMethod?, usingAt_eq_none notHere, Option.orElse_none]
    exact ih fun inA => absent (List.infix_cons inA)

lemma usingMethod?_eq_none {cs : List Char} (absent : ¬ "using".toList <:+: cs) :
    usingMethod? cs = none := by
  have passed := usingMethod?_append (b := []) absent (by simp)
  rw [List.append_nil] at passed
  rw [passed, usingMethod?]

/-- At `using`, a blank and a word, the search returns the word. -/
lemma usingMethod?_using {word : List Char} (rest : List Char) (nonempty : word ≠ [])
    (letters : ∀ c ∈ word, isWordChar c = true ∧ isWhiteSpace c = false) :
    usingMethod? ("using ".toList ++ word ++ ' ' :: rest) = some (String.ofList word) := by
  obtain ⟨w, ws, rfl⟩ := List.exists_cons_of_ne_nil nonempty
  have blank : isWhiteSpace w = false := (letters w (by simp)).2
  have words : ∀ c ∈ w :: ws, isWordChar c = true := fun c hc => (letters c hc).1
  -- after the blank the word runs up to the next blank
  have dropped :
      (' ' :: (w :: ws ++ ' ' :: rest)).dropWhile isWhiteSpace = w :: ws ++ ' ' :: rest := by
    rw [List.dropWhile_cons_of_pos (by decide), List.cons_append,
      List.dropWhile_cons_of_neg (by simp [blank])]
  have taken : (w :: ws ++ ' ' :: rest).takeWhile isWordChar = w :: ws := by
    rw [List.takeWhile_append_of_pos words, List.takeWhile_cons_of_neg (by decide),
      List.append_nil]
  show usingMethod? ('u' :: 's' :: 'i' :: 'n' :: 'g' :: ' ' :: (w :: ws ++ ' ' :: rest)) = _
  have spaced : isWhiteSpace ' ' = true := by decide
  simp only [usingMethod?, usingAt, dropped, taken]
  simp [spaced]

/-! ## Index definitions -/

/-- A PostgreSQL index definition as tbls writes it, by its parts. -/
structure IndexDefinition where
  unique : Bool
  name : String
  only : Bool
  table : String
  method : Option String
  columns : String
  predicate : Option String

namespace IndexDefinition

/-- `CREATE [UNIQUE] INDEX name ON [ONLY] table [USING method] (columns) [WHERE predicate]`. -/
def text (d : IndexDefinition) : String :=
  "CREATE " ++ (if d.unique then "UNIQUE " else "") ++ "INDEX " ++ d.name ++ " ON " ++
    (if d.only then "ONLY " else "") ++ d.table ++ d.method.elim "" (" USING " ++ ·) ++ " (" ++
    d.columns ++ ")" ++ d.predicate.elim "" (" WHERE " ++ ·)

/-- The texts a definition fills in: the names, the method, the columns and the predicate. -/
def filled (d : IndexDefinition) : List String :=
  [d.name, d.table] ++ d.method.toList ++ [d.columns] ++ d.predicate.toList

/-- The keywords a definition writes around what it fills in, lowercased. -/
def keywords (d : IndexDefinition) : List String :=
  ["create"] ++ (if d.unique then ["unique"] else []) ++ ["index", "on"] ++
    (if d.only then ["only"] else []) ++ d.method.elim [] (fun _ => ["using"]) ++
    d.predicate.elim [] (fun _ => ["where"])

/-- The definition lowercased letter by letter, part by part. -/
lemma flatMap_lowerFolded_text (d : IndexDefinition) :
    d.text.toList.flatMap lowerFolded =
      "create ".toList ++ (if d.unique then "unique ".toList else []) ++ "index ".toList ++
        d.name.toList.flatMap lowerFolded ++ " on ".toList ++
        (if d.only then "only ".toList else []) ++ d.table.toList.flatMap lowerFolded ++
        d.method.elim [] (fun m => " using ".toList ++ m.toList.flatMap lowerFolded) ++
        " (".toList ++ d.columns.toList.flatMap lowerFolded ++ [')'] ++
        d.predicate.elim [] (fun p => " where ".toList ++ p.toList.flatMap lowerFolded) := by
  have create : "CREATE ".toList.flatMap lowerFolded = "create ".toList := by decide
  have unique : "UNIQUE ".toList.flatMap lowerFolded = "unique ".toList := by decide
  have index : "INDEX ".toList.flatMap lowerFolded = "index ".toList := by decide
  have on : " ON ".toList.flatMap lowerFolded = " on ".toList := by decide
  have only : "ONLY ".toList.flatMap lowerFolded = "only ".toList := by decide
  have usingWord : " USING ".toList.flatMap lowerFolded = " using ".toList := by decide
  have opening : " (".toList.flatMap lowerFolded = " (".toList := by decide
  have closing : ")".toList.flatMap lowerFolded = [')'] := by decide
  have whereWord : " WHERE ".toList.flatMap lowerFolded = " where ".toList := by decide
  unfold text
  rcases d with ⟨_ | _, name, _ | _, table, _ | m, columns, _ | p⟩ <;>
    simp only [Option.elim, Bool.false_eq_true, if_false, if_true, String.toList_append,
      List.flatMap_append, String.toList_empty, List.append_nil, create, unique,
      index, on, only, usingWord, opening, closing, whereWord]

/-- A word without blanks or brackets is found in a definition lowercased letter by letter
exactly when it is found in one of its keywords or in one of the texts it fills in: the blanks
and brackets between them cut every other occurrence. -/
lemma infix_text_iff {pat : List Char} (nonempty : pat ≠ []) (blank : ' ' ∉ pat)
    (opening : '(' ∉ pat) (closing : ')' ∉ pat) (d : IndexDefinition) :
    pat <:+: d.text.toList.flatMap lowerFolded ↔
      (∃ k ∈ d.keywords, pat <:+: k.toList) ∨
        ∃ s ∈ d.filled, pat <:+: s.toList.flatMap lowerFolded := by
  have create : "create ".toList = "create".toList ++ [' '] := by decide
  have unique : "unique ".toList = "unique".toList ++ [' '] := by decide
  have index : "index ".toList = "index".toList ++ [' '] := by decide
  have on : " on ".toList = ' ' :: ("on".toList ++ [' ']) := by decide
  have only : "only ".toList = "only".toList ++ [' '] := by decide
  have usingWord : " using ".toList = ' ' :: ("using".toList ++ [' ']) := by decide
  have parens : " (".toList = [' ', '('] := by decide
  have whereWord : " where ".toList = ' ' :: ("where".toList ++ [' ']) := by decide
  rw [flatMap_lowerFolded_text]
  -- in each shape of the definition its words stand in order, cut at blanks and brackets; the
  -- cuts give one disjunct a word, and the two sides then differ only in their order
  rcases d with ⟨_ | _, name, _ | _, table, _ | m, columns, _ | p⟩ <;>
    simp only [keywords, filled, Option.elim, Option.toList, Bool.false_eq_true, if_false, if_true,
      create, unique, index, on, only, usingWord, parens, whereWord, List.append_assoc,
      List.cons_append, List.nil_append, List.append_nil, infix_append_cons_iff blank,
      infix_append_cons_iff closing, infix_cons_of_not_mem blank, infix_cons_of_not_mem opening,
      List.infix_nil, nonempty, or_false, List.mem_cons, exists_eq_or_imp, exists_eq_left,
      List.not_mem_nil] <;>
    simp only [or_assoc, or_comm, or_left_comm]

/-- Of the keywords, only `UNIQUE` holds `unique`. -/
lemma exists_keyword_unique (d : IndexDefinition) :
    (∃ k ∈ d.keywords, "unique".toList <:+: k.toList) ↔ d.unique = true := by
  rcases d with ⟨_ | _, name, _ | _, table, _ | m, columns, _ | p⟩ <;>
    simp only [keywords, Option.elim, Bool.false_eq_true, if_false, if_true, List.cons_append,
      List.nil_append] <;> decide

/-- Of the keywords, only `USING` holds `using`. -/
lemma exists_keyword_using (d : IndexDefinition) :
    (∃ k ∈ d.keywords, "using".toList <:+: k.toList) ↔ d.method.isSome = true := by
  rcases d with ⟨_ | _, name, _ | _, table, _ | m, columns, _ | p⟩ <;>
    simp only [keywords, Option.elim, Bool.false_eq_true, if_false, if_true, List.cons_append,
      List.nil_append, Option.isSome] <;> decide

/-- The method is written between a front and a back that do not depend on it. -/
lemma text_split (d : IndexDefinition) : ∃ front back,
    d.text = front ++ d.method.elim "" (" USING " ++ ·) ++ " " ++ back ∧
      { d with method := none }.text = front ++ " " ++ back := by
  refine ⟨"CREATE " ++ (if d.unique then "UNIQUE " else "") ++ "INDEX " ++ d.name ++ " ON " ++
    (if d.only then "ONLY " else "") ++ d.table,
    "(" ++ d.columns ++ ")" ++ d.predicate.elim "" (" WHERE " ++ ·), ?_, ?_⟩ <;>
  · unfold text
    simp only [String.append_assoc]
    rfl

end IndexDefinition

open IndexDefinition

/-- The lowercase of a definition holds a word without blanks, brackets or sigmas exactly when
one of its keywords holds it or the lowercase of a text it fills in does. -/
lemma contains_lowercase_text {pat : String} (nonempty : pat ≠ "")
    (signs : ∀ c ∈ [' ', '(', ')', 'σ', 'ς'], c ∉ pat.toList) (d : IndexDefinition) :
    contains (lowercase d.text) pat = true ↔
      (∃ k ∈ d.keywords, pat.toList <:+: k.toList) ∨
        ∃ s ∈ d.filled, contains (lowercase s) pat = true := by
  simp only [List.mem_cons, List.not_mem_nil, or_false, forall_eq_or_imp, forall_eq] at signs
  obtain ⟨blank, opening, closing, small, final⟩ := signs
  have letters : pat.toList ≠ [] := by simpa using nonempty
  simp only [contains, occursIn_iff_infix, infix_lowercase_iff small final,
    infix_text_iff letters blank opening closing]

/-- Lowercasing keeps a word found in the front of a text. -/
lemma contains_lowercase_append {pat : String} (small : 'σ' ∉ pat.toList) (final : 'ς' ∉ pat.toList)
    {a : String} (b : String) (found : contains (lowercase a) pat = true) :
    contains (lowercase (a ++ b)) pat = true := by
  simp only [contains, occursIn_iff_infix, infix_lowercase_iff small final, String.toList_append,
    List.flatMap_append] at found ⊢
  exact found.trans (List.prefix_append _ _).isInfix

/-- A blank never starts a `using` clause. -/
lemma usingMethod?_blank (cs : List Char) : usingMethod? (' ' :: cs) = usingMethod? cs := by
  rw [usingMethod?]
  rfl

/-- In the lowercase of a text that writes ` USING `, a word and a blank after a front without
`using`, the search finds the lowercased word, when that is a run of word characters and the word
holds no capital sigma, so that it lowercases letter by letter. -/
lemma usingMethod?_lowercase_using {front m : String} (back : String)
    (absent : contains (lowercase front) "using" = false) (noSigma : 'Σ' ∉ m.toList)
    (nonempty : (lowercase m).toList ≠ [])
    (letters : ∀ c ∈ (lowercase m).toList, isWordChar c = true ∧ isWhiteSpace c = false) :
    usingMethod? (lowercase (front ++ " USING " ++ m ++ " " ++ back)).toList =
      some (lowercase m) := by
  rw [lowercase_of_not_sigma noSigma, String.toList_ofList] at nonempty letters
  have clauseNoSigma : 'Σ' ∉ (" USING " ++ m ++ " ").toList := by
    simp only [String.toList_append, List.mem_append, not_or]
    exact ⟨⟨by decide, noSigma⟩, by decide⟩
  have whole : (front ++ " USING " ++ m ++ " " ++ back).toList =
      front.toList ++ ((" USING " ++ m ++ " ").toList ++ back.toList) := by
    simp only [String.toList_append, List.append_assoc]
  obtain ⟨lowered, split, folded⟩ :=
    lowerFrom_append [] front.toList ((" USING " ++ m ++ " ").toList ++ back.toList)
  have notHere : ¬ "using".toList <:+: lowered := by
    rw [← infix_map_foldSigma (by decide) (by decide), folded,
      ← infix_lowercase_iff (by decide) (by decide), ← occursIn_iff_infix]
    simpa [contains] using absent
  have clause : (" USING " ++ m ++ " ").toList.flatMap lowerChars =
      ' ' :: ("using ".toList ++ m.toList.flatMap lowerChars ++ [' ']) := by
    have keyword : " USING ".toList.flatMap lowerChars = ' ' :: "using ".toList := by decide
    have blank : " ".toList.flatMap lowerChars = [' '] := by decide
    simp only [String.toList_append, List.flatMap_append, keyword, blank, List.cons_append]
  rw [lowercase, String.toList_ofList, whole, split, lowerFrom_append_of_not_sigma clauseNoSigma,
    clause, usingMethod?_append notHere (by simp), List.cons_append, usingMethod?_blank,
    List.append_assoc _ [' '], List.singleton_append, usingMethod?_using _ nonempty letters,
    lowercase_of_not_sigma noSigma]

lemma not_exists_contains {pat : String} {texts : List String}
    (plain : ∀ s ∈ texts, contains (lowercase s) pat = false) :
    ¬ ∃ s ∈ texts, contains (lowercase s) pat = true := by
  rintro ⟨s, mem, found⟩
  rw [plain s mem] at found
  exact Bool.false_ne_true found

/-- A definition whose filled-in texts never hold `unique` holds it, lowercased, exactly when it
says `UNIQUE`. -/
lemma contains_unique_text {d : IndexDefinition}
    (plain : ∀ s ∈ d.filled, contains (lowercase s) "unique" = false) :
    contains (lowercase d.text) "unique" = d.unique := by
  rw [Bool.eq_iff_iff, contains_lowercase_text (by simp) (by simp),
    or_iff_left (not_exists_contains plain), exists_keyword_unique]

/-- Without a `USING` clause, and with no `using` in what is filled in, a lowercased definition
holds no `using`. -/
lemma contains_using_text {d : IndexDefinition} (none : d.method = none)
    (plain : ∀ s ∈ d.filled, contains (lowercase s) "using" = false) :
    contains (lowercase d.text) "using" = false := by
  rw [Bool.eq_false_iff, ne_eq, contains_lowercase_text (by simp) (by simp),
    exists_keyword_using, none]
  rintro (clause | found)
  · exact Bool.false_ne_true clause
  · exact not_exists_contains plain found

/-- A method that `using\s+(\w+)` reads whole: its lowercase is a nonempty run of word
characters (`\w`), none of them a blank (a word character never is one; the tables that say so
are not evaluated here), and it holds no capital sigma, so that it lowercases letter by letter. -/
def WordMethod (m : String) : Prop :=
  'Σ' ∉ m.toList ∧ (lowercase m).toList ≠ [] ∧
    ∀ c ∈ (lowercase m).toList, isWordChar c = true ∧ isWhiteSpace c = false

/-- The method a definition reads as: the search for `using` finds the lowercased method of its
`USING` clause, and nothing without one. -/
lemma usingMethod?_lowercase_text {d : IndexDefinition}
    (plain : ∀ s ∈ d.filled, contains (lowercase s) "using" = false)
    (word : ∀ m ∈ d.method, WordMethod m) :
    usingMethod? (lowercase d.text).toList = d.method.map lowercase := by
  cases hm : d.method with
  | none =>
    have absent := contains_using_text hm plain
    rw [contains, Bool.eq_false_iff, ne_eq, occursIn_iff_infix] at absent
    exact usingMethod?_eq_none absent
  | some m =>
    obtain ⟨front, back, written, withoutClause⟩ := text_split d
    rw [hm, Option.elim_some] at written
    -- the same definition without its clause holds no `using`, and its front is this one's
    have bare : contains (lowercase (front ++ " " ++ back)) "using" = false := by
      have fewer : ∀ s ∈ ({ d with method := none } : IndexDefinition).filled, s ∈ d.filled := by
        simp only [filled, List.mem_append, Option.toList_none, List.not_mem_nil, or_false]
        tauto
      have := contains_using_text (d := { d with method := none }) rfl
        (fun s mem => plain s (fewer s mem))
      rwa [withoutClause] at this
    have frontAbsent : contains (lowercase front) "using" = false := by
      rw [Bool.eq_false_iff]
      intro found
      have := contains_lowercase_append (by decide) (by decide) (" " ++ back) found
      rw [← String.append_assoc, bare] at this
      exact Bool.false_ne_true this
    obtain ⟨noSigma, nonempty, letters⟩ := word m hm
    rw [written, ← String.append_assoc,
      usingMethod?_lowercase_using back frontAbsent noSigma nonempty letters, Option.map_some]

end Tbls

end Schemata
