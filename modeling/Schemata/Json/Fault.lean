import Schemata.Json.Print
import Schemata.Text.Escape

/-!
# Faults of typed JSON reading

Reading JSON text into a typed value can fail in two ways: the text is not
JSON (`SyntaxFault`), or it is JSON of the wrong form (`DecodeFault`). A fault
found while reading text carries the line and column where the reader stood;
the column counts bytes from the start of the line. A fault found in a value
that is already in memory carries no position.
-/

namespace Schemata

namespace Json

/-- A place in JSON text where the text stops being JSON. -/
inductive SyntaxFault where
  | eofInList
  | eofInObject
  | eofInString
  | eofInValue
  | expectedColon
  | expectedListCommaOrEnd
  | expectedObjectCommaOrEnd
  | expectedIdent
  | expectedValue
  | invalidEscape
  | invalidNumber
  | numberOutOfRange
  | controlInString
  | keyMustBeString
  | loneSurrogate
  | unexpectedEndOfHexEscape
  | trailingComma
  | trailingCharacters
  | recursionLimit
deriving Repr, DecidableEq, Inhabited

/-- The text of a syntax fault. -/
def SyntaxFault.message : SyntaxFault → String
  | .eofInList => "EOF while parsing a list"
  | .eofInObject => "EOF while parsing an object"
  | .eofInString => "EOF while parsing a string"
  | .eofInValue => "EOF while parsing a value"
  | .expectedColon => "expected `:`"
  | .expectedListCommaOrEnd => "expected `,` or `]`"
  | .expectedObjectCommaOrEnd => "expected `,` or `\x7d`"
  | .expectedIdent => "expected ident"
  | .expectedValue => "expected value"
  | .invalidEscape => "invalid escape"
  | .invalidNumber => "invalid number"
  | .numberOutOfRange => "number out of range"
  | .controlInString => "control character (\\u0000-\\u001F) found while parsing a string"
  | .keyMustBeString => "key must be a string"
  | .loneSurrogate => "lone leading surrogate in hex escape"
  | .unexpectedEndOfHexEscape => "unexpected end of hex escape"
  | .trailingComma => "trailing comma"
  | .trailingCharacters => "trailing characters"
  | .recursionLimit => "recursion limit exceeded"

/-- What a typed reading found where it expected something else. -/
inductive Unexpected where
  | bool (b : Bool)
  | unsigned (n : Nat)
  | signed (n : Int)
  | float (x : Binary64)
  | str (s : String)
  | null
  | seq
  | map
deriving Repr, Inhabited

/-- How a message names what was found. -/
def Unexpected.describe : Unexpected → String
  | .bool b => "boolean `" ++ (if b then "true" else "false") ++ "`"
  | .unsigned n => "integer `" ++ toString n ++ "`"
  | .signed n => "integer `" ++ toString n ++ "`"
  | .float x => "floating point `" ++ floatStyle.render x ++ "`"
  | .str s => "string " ++ Escape.quoted s
  | .null => "null"
  | .seq => "sequence"
  | .map => "map"

/-- What a value is, as a message names it. -/
def unexpectedOf : Json → Unexpected
  | .null => .null
  | .bool b => .bool b
  | .num (.nat n) => .unsigned n
  | .num (.negInt n) => .signed n
  | .num (.float x) => .float x
  | .str s => .str s
  | .arr _ => .seq
  | .obj _ => .map

/-- Names in backticks: one, two joined by `or`, or a list after `one of`. -/
def oneOf (names : List String) : String :=
  let tick := fun (n : String) => "`" ++ n ++ "`"
  match names with
  | [a] => tick a
  | [a, b] => tick a ++ " or " ++ tick b
  | _ => "one of " ++ ", ".intercalate (names.map tick)

/-- JSON of the wrong form for the typed value being read. -/
inductive DecodeFault where
  | invalidType (found : Unexpected) (expected : String)
  | invalidValue (found : Unexpected) (expected : String)
  | invalidLength (n : Nat) (expected : String)
  | missingField (name : String)
  | duplicateField (name : String)
  | unknownVariant (name : String) (expected : List String)
  | noVariantMatches (enumName : String)
deriving Repr, Inhabited

/-- The text of a decoding fault. -/
def DecodeFault.message : DecodeFault → String
  | .invalidType u e => "invalid type: " ++ u.describe ++ ", expected " ++ e
  | .invalidValue u e => "invalid value: " ++ u.describe ++ ", expected " ++ e
  | .invalidLength n e => "invalid length " ++ toString n ++ ", expected " ++ e
  | .missingField n => "missing field `" ++ n ++ "`"
  | .duplicateField n => "duplicate field `" ++ n ++ "`"
  | .unknownVariant n [] => "unknown variant `" ++ n ++ "`, there are no variants"
  | .unknownVariant n es => "unknown variant `" ++ n ++ "`, expected " ++ oneOf es
  | .noVariantMatches n => "data did not match any variant of untagged enum " ++ n

/-- A fault of either kind. -/
inductive Fault where
  | malformed (f : SyntaxFault)
  | decode (f : DecodeFault)
deriving Repr, Inhabited

def Fault.message : Fault → String
  | .malformed f => f.message
  | .decode f => f.message

/-- A fault and, when it was found in text, the line and column there. -/
structure ReadError where
  fault : Fault
  position : Option (Nat × Nat)
deriving Repr, Inhabited

/-- The message of a reading error, with its place when it has one. -/
def ReadError.message (e : ReadError) : String :=
  match e.position with
  | some (line, column) =>
    e.fault.message ++ " at line " ++ toString line ++ " column " ++ toString column
  | none => e.fault.message

end Json

end Schemata
