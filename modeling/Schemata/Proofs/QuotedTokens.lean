import Mathlib
import Schemata.Proofs.Fuel
import Schemata.Render.Ddl

/-!
# Quoted identifiers and string literals read back as one token

DDL writes identifiers between double quotes and string literals between single quotes, each
quote inside written twice (`Ddl.quoteWith`). The SQL lexer reads such a run back
(`Lexer.readQuoted`): a quote followed by a second one stands for one quote, a quote followed
by anything else closes the run.

* `readQuoted_doubled`: reading the doubled characters of a text, then a closing quote that
  no second quote follows, gives back the text and stops right after the closing quote. The
  induction is on the text, one character or one doubled quote per round.
* `nextToken_quoteWith`: wherever a quoted text stands in a source, followed by anything but
  its quote, the lexer reads it as one token spanning exactly its characters.
* `tokenize_quote_stringLiteral`: a quoted identifier, or a string literal, lexed alone is one
  token holding the original text and spanning the whole source.

Positions are character positions of the source; `SourceText.byteAt` turns them into the
byte offsets that reports show.
-/

namespace Schemata

namespace Sql.Lexer

open Ddl

@[simp] lemma doubled_nil (q : Char) : doubled q [] = [] := rfl

lemma doubled_cons (q c : Char) (cs : List Char) :
    doubled q (c :: cs) = (if c = q then [q, q] else [c]) ++ doubled q cs := rfl

lemma toList_quoteWith (q : Char) (s : String) :
    (quoteWith q s).toList = q :: doubled q s.toList ++ [q] := by
  simp [quoteWith]

@[simp] lemma length_quoteWith (q : Char) (s : String) :
    (quoteWith q s).length = (doubled q s.toList).length + 2 := by
  rw [← String.length_toList, toList_quoteWith]
  simp

@[simp] lemma get?_ofString (text : String) (i : Nat) :
    (SourceText.ofString text).get? i = text.toList[i]? := by
  simp [SourceText.get?, SourceText.ofString]

@[simp] lemma size_ofString (text : String) : (SourceText.ofString text).size = text.length := by
  simp [SourceText.size, SourceText.ofString, String.length_toList]

variable {src : SourceText}

/-- **Reading undoes doubling.** Where the source holds the doubled characters of `s` and
then a quote that no second quote follows, the reader returns `s` after what it had read
and stops right after that quote. -/
theorem readQuoted_doubled (q : Char) (what : String) (start : Nat) {after : List Char}
    (closes : after.head? ≠ some q) :
    ∀ (s : List Char) (fuel : Nat) (acc : List Char) (i : Nat),
      (∀ k, src.get? (i + k) = (doubled q s ++ q :: after)[k]?) →
      (doubled q s).length < fuel →
      readQuoted src q what start fuel acc i =
        .ok (String.ofList (acc.reverse ++ s), i + (doubled q s).length + 1)
  | [], fuel + 1, acc, i, text, _ => by
    have first : src.get? i = some q := by simpa using text 0
    have second : src.get? (i + 1) = after.head? := by
      simpa [List.head?_eq_getElem?] using text 1
    rw [readQuoted, first]
    simp [second, closes]
  | c :: s, fuel + 1, acc, i, text, bound => by
    by_cases quoteChar : c = q
    · -- a doubled quote: one quote is read, two characters are passed
      subst quoteChar
      have first : src.get? i = some c := by simpa [doubled_cons] using text 0
      have second : src.get? (i + 1) = some c := by simpa [doubled_cons] using text 1
      have rest : ∀ k, src.get? (i + 2 + k) = (doubled c s ++ c :: after)[k]? := fun k => by
        simpa [doubled_cons, Nat.add_assoc, Nat.add_comm 2] using text (k + 2)
      have fits : (doubled c s).length < fuel := by
        simp [doubled_cons] at bound
        omega
      rw [readQuoted, first]
      simp only [beq_self_eq_true, if_true, second]
      rw [readQuoted_doubled c what start closes s fuel (c :: acc) (i + 2) rest fits]
      simp [doubled_cons, Nat.add_assoc, Nat.add_comm 2]
    · have first : src.get? i = some c := by simpa [doubled_cons, quoteChar] using text 0
      have rest : ∀ k, src.get? (i + 1 + k) = (doubled q s ++ q :: after)[k]? := fun k => by
        simpa [doubled_cons, quoteChar, Nat.add_assoc, Nat.add_comm 1] using text (k + 1)
      have fits : (doubled q s).length < fuel := by
        simp [doubled_cons, quoteChar] at bound
        omega
      rw [readQuoted, first]
      simp only [beq_iff_eq, quoteChar, if_false]
      rw [readQuoted_doubled q what start closes s fuel (c :: acc) (i + 1) rest fits]
      simp [doubled_cons, quoteChar, Nat.add_assoc, Nat.add_comm 1]

/-- The lexer skips no blank before a character that is not one. -/
lemma skipWhile_stop {p : Char → Bool} {i : Nat} {c : Char} (hc : src.get? i = some c)
    (stops : p c = false) (f : Nat) : skipWhile src p f i = i := by
  cases f <;> simp [skipWhile, hc, stops]

lemma skipWhile_end {p : Char → Bool} {i : Nat} (ended : src.get? i = none) (f : Nat) :
    skipWhile src p f i = i := by
  cases f <;> simp [skipWhile, ended]

/-- At the end of the source the lexer is done. -/
lemma nextToken_end (f : Nat) : nextToken src (f + 1) src.size = .done := by
  have ended : src.get? src.size = none := SourceText.get?_eq_none (Nat.le_refl _)
  unfold nextToken
  simp [skipWhile_end ended, ended]

lemma tokensFrom_token {f i : Nat} {acc : List Spanned} {t : Spanned}
    (read : nextToken src (src.size + 1) i = .token t) :
    tokensFrom src (f + 1) i acc = tokensFrom src f t.stop (t :: acc) := by
  rw [tokensFrom, read]

lemma tokensFrom_end (f : Nat) (acc : List Spanned) :
    tokensFrom src (f + 1) src.size acc = (acc.reverse, none) := by
  rw [tokensFrom, nextToken_end]

/-- **A quoted text anywhere in a source is one token.** Where the characters from position
`i` are those of a quoted identifier or a string literal, followed by anything but its quote,
the lexer reads one token holding the text, spanning exactly its characters. -/
theorem nextToken_quoteWith {q : Char} {mk : String → Token}
    (kind : (q = '"' ∧ mk = .quotedIdent) ∨ (q = '\'' ∧ mk = .str)) (s : String)
    (after : List Char) (closes : after.head? ≠ some q) {i : Nat}
    (text : ∀ k, src.get? (i + k) = ((quoteWith q s).toList ++ after)[k]?) (f : Nat) :
    nextToken src (f + 1) i = .token ⟨mk s, i, i + (quoteWith q s).length⟩ := by
  have opens : src.get? i = some q := by simpa [toList_quoteWith] using text 0
  have body : ∀ k, src.get? (i + 1 + k) = (doubled q s.toList ++ q :: after)[k]? := fun k => by
    simpa [toList_quoteWith, Nat.add_assoc, Nat.add_comm 1] using text (k + 1)
  -- the source reaches past the closing quote, so its size bounds the reader's rounds
  have inside : i + (doubled q s.toList).length + 1 < src.size := by
    have := text ((doubled q s.toList).length + 1)
    rw [toList_quoteWith] at this
    exact SourceText.lt_size_of_get? (by simpa [Nat.add_assoc] using this)
  have stop : i + 1 + (doubled q s.toList).length + 1 = i + (quoteWith q s).length := by
    rw [length_quoteWith]
    omega
  have noBlank : Unicode.isWhiteSpace q = false := by
    rcases kind with ⟨rfl, -⟩ | ⟨rfl, -⟩ <;> decide
  unfold nextToken
  rw [skipWhile_stop opens noBlank]
  rcases kind with ⟨rfl, rfl⟩ | ⟨rfl, rfl⟩
  · simp only [opens, readQuoted_doubled '"' _ i closes s.toList src.size [] (i + 1) body
      (by omega), stop]
    simp
  · simp only [opens, readQuoted_doubled '\'' _ i closes s.toList src.size [] (i + 1) body
      (by omega), stop]
    simp

/-- A source that is one quoted text lexes to that one token and nothing after it. -/
lemma tokenize_quoteWith {q : Char} {mk : String → Token}
    (kind : (q = '"' ∧ mk = .quotedIdent) ∨ (q = '\'' ∧ mk = .str)) (s : String) :
    tokenize (.ofString (quoteWith q s)) = ([⟨mk s, 0, (quoteWith q s).length⟩], none) := by
  let src := SourceText.ofString (quoteWith q s)
  have size : src.size = (quoteWith q s).length := size_ofString _
  have first : nextToken src (src.size + 1) 0 = .token ⟨mk s, 0, src.size⟩ := by
    rw [nextToken_quoteWith kind s [] (by simp)
      (fun k => by simp [src]), size, Nat.zero_add]
  -- the source holds at least the two quotes, so the lexer has a round left for its end
  obtain ⟨n, hn⟩ : ∃ n, src.size = n + 1 + 1 := ⟨_, size.trans (length_quoteWith q s)⟩
  show tokensFrom src (src.size + 1) 0 [] = _
  rw [hn, tokensFrom_token first]
  dsimp only
  rw [tokensFrom_end, size]
  rfl

end Sql.Lexer

/-- **Quoting is undone by the lexer.** A quoted identifier lexes to the one identifier token
holding the original text, and a string literal to the one string token holding it, each
spanning the whole text. -/
theorem Sql.tokenize_quote_stringLiteral (s : String) :
    tokenize (.ofString (Ddl.quote s)) = ([⟨.quotedIdent s, 0, (Ddl.quote s).length⟩], none) ∧
    tokenize (.ofString (Ddl.stringLiteral s)) =
      ([⟨.str s, 0, (Ddl.stringLiteral s).length⟩], none) :=
  ⟨Lexer.tokenize_quoteWith (.inl ⟨rfl, rfl⟩) s, Lexer.tokenize_quoteWith (.inr ⟨rfl, rfl⟩) s⟩

end Schemata
