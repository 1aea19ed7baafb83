/-!
# Searching text

Plain substring search over characters: whether a pattern occurs, and where
it first occurs.
-/

namespace Schemata

namespace TextSearch

/-- Whether `pat` occurs in `cs`. -/
def occursIn (pat : List Char) : List Char → Bool
  | [] => pat.isEmpty
  | c :: rest => pat.isPrefixOf (c :: rest) || occursIn pat rest

/-- Whether `pat` occurs in the text `s`. -/
def contains (s pat : String) : Bool := occursIn pat.toList s.toList

/-- The character position of the first occurrence of `pat` in `cs`. -/
def firstOccurrence (pat : List Char) : List Char → Option Nat
  | [] => if pat.isEmpty then some 0 else none
  | c :: rest =>
    if pat.isPrefixOf (c :: rest) then some 0 else (firstOccurrence pat rest).map (· + 1)

end TextSearch

end Schemata
