import Schemata.Json.Value
import Schemata.Decimal.Layout

/-!
# Writing JSON text

The compact text of a value: no blanks, object keys in insertion order.
Strings escape the quote and the backslash, write the controls backspace, form
feed, line feed, carriage return and tab as two-character escapes and every
other control as `\u00xx` in lowercase hexadecimal; all other characters are
written as they are. Integers are written exactly; doubles in their shortest
form, positionally from `1e-5` up to below `1e16` with at least one fraction
digit (`1.0`, `0.00001`), scientifically outside it with a signed exponent
(`1e+16`, `1.5e-7`, `5e-324`). A double that is not finite is written `null`.
-/

namespace Schemata

namespace Json

/-- The layout of doubles in JSON text. -/
def floatStyle : FloatStyle :=
  { scientificBelow := some (-5), scientificFrom := some 16, minFraction := 1,
    exponentPlus := true }

/-- The escaped form of one character inside a JSON string. -/
def escapeChar (c : Char) : String :=
  if c == '"' then "\\\""
  else if c == '\\' then "\\\\"
  else if c == '\n' then "\\n"
  else if c == '\r' then "\\r"
  else if c == '\t' then "\\t"
  else if c == '\x08' then "\\b"
  else if c == '\x0c' then "\\f"
  else if c.toNat < 0x20 then
    let h := Nat.toDigits 16 c.toNat
    "\\u00" ++ String.ofList (List.replicate (2 - h.length) '0' ++ h)
  else String.singleton c

/-- A string as JSON text, quotes included. -/
def quote (s : String) : String :=
  s.foldl (fun acc c => acc ++ escapeChar c) "\"" ++ "\""

/-- A number as JSON text. -/
def renderNumber : Number → String
  | .nat n => toString n
  | .negInt n => toString n
  | .float x => if x.isFinite then floatStyle.render x else "null"

mutual
/-- The compact JSON text of a value. -/
def render : Json → String
  | .null => "null"
  | .bool true => "true"
  | .bool false => "false"
  | .num n => renderNumber n
  | .str s => quote s
  | .arr items => "[" ++ renderItems items ++ "]"
  | .obj fields => "\x7b" ++ renderFields fields ++ "\x7d"

/-- Array elements separated by commas. -/
def renderItems : List Json → String
  | [] => ""
  | [x] => render x
  | x :: rest => render x ++ "," ++ renderItems rest

/-- Object members separated by commas. -/
def renderFields : List (String × Json) → String
  | [] => ""
  | [(k, v)] => quote k ++ ":" ++ render v
  | (k, v) :: rest => quote k ++ ":" ++ render v ++ "," ++ renderFields rest
end

end Json

end Schemata
