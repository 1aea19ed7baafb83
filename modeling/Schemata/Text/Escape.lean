import Schemata.Text.Unicode.GraphemeExtend
import Schemata.Text.Unicode.Invisible

/-!
# Quoted text in messages

Messages quote tokens and texts the way a reader can retype them: inside double
quotes (or single quotes for one character), a backslash escapes the quote
character itself, the backslash, tab, carriage return, line feed and NUL; a
character without a visible form or one that attaches to the previous character
is written as `\u` followed by its code point in braces, in lowercase
hexadecimal.
-/

namespace Schemata

namespace Escape

/-- Lowercase hexadecimal digits of a number. -/
def hexLower (n : Nat) : String := String.ofList (Nat.toDigits 16 n)

/-- The escaped form of one character, given the quote character in use. -/
def escapeChar (quote : Char) (c : Char) : String :=
  if c == '\x00' then "\\0"
  else if c == '\t' then "\\t"
  else if c == '\r' then "\\r"
  else if c == '\n' then "\\n"
  else if c == '\\' then "\\\\"
  else if c == quote then "\\" ++ String.singleton c
  else if Unicode.isGraphemeExtend c || Unicode.isInvisible c then
    "\\u" ++ "\x7b" ++ hexLower c.toNat ++ "\x7d"
  else String.singleton c

/-- A text in double quotes with escapes. -/
def quoted (s : String) : String :=
  "\"" ++ String.join (s.toList.map (escapeChar '"')) ++ "\""

/-- A character in single quotes with escapes. -/
def quotedChar (c : Char) : String := "'" ++ escapeChar '\'' c ++ "'"

end Escape

end Schemata
