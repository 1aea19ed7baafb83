import Schemata.Text.Unicode.CaseTables
import Schemata.Text.Unicode.Cased
import Schemata.Text.Unicode.CaseIgnorable

/-!
# Lowercase and uppercase text

Full Unicode case conversion of characters and texts. A character converts
through its special mapping when it has one (several characters), else through
the run table, else to itself; ASCII takes the short way. In a text, a capital
sigma becomes a final sigma exactly when a cased character precedes it and none
follows it, case-ignorable characters skipped on both sides.
-/

namespace Schemata

namespace Unicode

/-- The characters a character lowercases to. -/
def lowerChars (c : Char) : List Char :=
  if c.toNat < 128 then [c.toLower]
  else
    match lowerSpecial.lookup c.toNat with
    | some cs => cs.map Char.ofNat
    | none =>
      match lookupRuns lowerTable c.toNat with
      | some n => [Char.ofNat n]
      | none => [c]

/-- The characters a character uppercases to. -/
def upperChars (c : Char) : List Char :=
  if c.toNat < 128 then [c.toUpper]
  else
    match upperSpecial.lookup c.toNat with
    | some cs => cs.map Char.ofNat
    | none =>
      match lookupRuns upperTable c.toNat with
      | some n => [Char.ofNat n]
      | none => [c]

/-- Whether the first character of `cs` that is not case-ignorable is cased. -/
def casedAfterIgnorable (cs : List Char) : Bool :=
  match cs.dropWhile isCaseIgnorable with
  | c :: _ => isCased c
  | [] => false

/-- Lowercase `rest`, where `before` holds the characters already passed,
nearest first. -/
def lowerFrom (before : List Char) : List Char → List Char
  | [] => []
  | c :: rest =>
    let out :=
      if c == 'Σ' then
        if casedAfterIgnorable before && !casedAfterIgnorable rest then ['ς']
        else ['σ']
      else lowerChars c
    out ++ lowerFrom (c :: before) rest

/-- The full lowercase of a text. -/
def lowercase (s : String) : String := String.ofList (lowerFrom [] s.toList)

/-- The full uppercase of a text. -/
def uppercase (s : String) : String := String.ofList (s.toList.flatMap upperChars)

end Unicode

end Schemata
