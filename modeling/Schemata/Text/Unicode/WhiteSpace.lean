/-!
# White space

The Unicode `White_Space` property: the ASCII blanks and controls tab to
carriage return, next line, no-break space, ogham space mark, the spaces
U+2000 to U+200A, the line and paragraph separators, narrow no-break space,
medium mathematical space and ideographic space. Trimming, splitting on blanks
and the blank-skipping of every lexer use this set.
-/

namespace Schemata

namespace Unicode

/-- Whether a character has the Unicode `White_Space` property. -/
def isWhiteSpace (c : Char) : Bool :=
  let n := c.toNat
  (0x09 ≤ n && n ≤ 0x0D) || n == 0x20 || n == 0x85 || n == 0xA0 || n == 0x1680 ||
    (0x2000 ≤ n && n ≤ 0x200A) || n == 0x2028 || n == 0x2029 || n == 0x202F ||
    n == 0x205F || n == 0x3000

theorem isWhiteSpace_of_isWhitespace (c : Char) (h : c.isWhitespace = true) :
    isWhiteSpace c = true := by
  simp only [Char.isWhitespace, Bool.or_eq_true, decide_eq_true_eq] at h
  simp only [isWhiteSpace, Bool.or_eq_true, Bool.and_eq_true, beq_iff_eq, decide_eq_true_eq]
  rcases h with ((h | h) | h) | h <;> subst h <;> decide

/-- Characters without their leading blanks. -/
def dropBlanks (cs : List Char) : List Char := cs.dropWhile isWhiteSpace

/-- Characters without their trailing blanks. -/
def dropTrailingBlanks (cs : List Char) : List Char := (dropBlanks cs.reverse).reverse

/-- A text without its leading blanks. -/
def trimStart (s : String) : String := String.ofList (dropBlanks s.toList)

/-- A text without its trailing blanks. -/
def trimEnd (s : String) : String := String.ofList (dropTrailingBlanks s.toList)

/-- A text without blanks at either end. -/
def trim (s : String) : String := String.ofList (dropTrailingBlanks (dropBlanks s.toList))

/-- The maximal runs of non-blank characters, in order; `word` holds the
current run reversed. -/
def blankSeparatedFrom (word : List Char) : List Char → List (List Char)
  | [] => if word.isEmpty then [] else [word.reverse]
  | c :: rest =>
    if isWhiteSpace c then
      if word.isEmpty then blankSeparatedFrom [] rest
      else word.reverse :: blankSeparatedFrom [] rest
    else blankSeparatedFrom (c :: word) rest

/-- The maximal runs of non-blank characters, in order. -/
def blankSeparated (cs : List Char) : List (List Char) := blankSeparatedFrom [] cs

/-- The words of a text: its maximal runs of non-blank characters. -/
def words (s : String) : List String := (blankSeparated s.toList).map String.ofList

end Unicode

end Schemata
