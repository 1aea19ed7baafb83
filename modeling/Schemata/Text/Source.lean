/-!
# Source texts

A source text is kept as its array of characters together with the UTF-8
byte offset at which each character starts. Lexers work on character
positions; every offset a user sees is a byte offset, read off the table.
-/

namespace Schemata

/-- The number of bytes of a character in UTF-8. -/
def utf8Size (c : Char) : Nat :=
  let n := c.toNat
  if n < 0x80 then 1 else if n < 0x800 then 2 else if n < 0x10000 then 3 else 4

/-- The byte offsets at which the characters start, followed by the total. -/
def byteOffsets (cs : List Char) : Array Nat :=
  (cs.foldl (fun (acc : Array Nat × Nat) c => (acc.1.push acc.2, acc.2 + utf8Size c))
    (#[], 0)) |> fun (arr, total) => arr.push total

/-- A text with its characters and their byte offsets. -/
structure SourceText where
  chars : Array Char
  offsets : Array Nat
deriving Inhabited

namespace SourceText

def ofString (s : String) : SourceText := ⟨s.toList.toArray, byteOffsets s.toList⟩

def size (t : SourceText) : Nat := t.chars.size

/-- The character at a position, if there is one. -/
def get? (t : SourceText) (i : Nat) : Option Char := t.chars[i]?

/-- The byte offset of a character position (the total length at the end). -/
def byteAt (t : SourceText) (i : Nat) : Nat := t.offsets.getD i (t.offsets.back?.getD 0)

/-- The characters of positions `[a, b)`. -/
def slice (t : SourceText) (a b : Nat) : String := String.ofList (t.chars.extract a b).toList

end SourceText

end Schemata
