import Schemata.Json.Value

/-!
# Shapes of typed JSON

A `Shape` says what a typed reading accepts at a place in a document: any
value, a string, a boolean, a 64-bit or 32-bit integer, a double, an optional
value, a list, a map with string keys, a record of named fields, a choice
between shapes tried in order, a record tagged by one of its fields, or one
word of a fixed list. A record field whose shape is `fallback d s` may be
missing and then reads as `d`; an `opt` field may be missing and reads as
`null`.

Reading through a shape yields the *canonical* value: records list their
declared fields in declaration order with defaults filled in and unknown fields
dropped, tagged records put their tag first, integers read as doubles where a
double is expected, and a choice yields what its matching alternative yields.
-/

namespace Schemata

namespace Json

/-- What a typed reading accepts at a place in a document. -/
inductive Shape where
  | any
  | text
  | flag
  | int64
  | nat32
  | float64
  | opt (inner : Shape)
  | fallback (value : Json) (inner : Shape)
  | seq (item : Shape)
  | dict (item : Shape)
  | record (name : String) (fields : List (String × Shape))
  | untagged (name : String) (alternatives : List Shape)
  | tagged (name : String) (tag : String) (variants : List (String × String × List (String × Shape)))
  | keyword (variants : List String)
deriving Repr, Inhabited

namespace Shape

/-- How messages name what a shape expects. -/
def expecting : Shape → String
  | .any => "any valid JSON value"
  | .text => "a string"
  | .flag => "a boolean"
  | .int64 => "i64"
  | .nat32 => "u32"
  | .float64 => "f64"
  | .opt inner => inner.expecting
  | .fallback _ inner => inner.expecting
  | .seq _ => "a sequence"
  | .dict _ => "a map"
  | .record name _ => "struct " ++ name
  | .untagged name _ => "untagged enum " ++ name
  | .tagged name _ _ => "internally tagged enum " ++ name
  | .keyword _ => "variant identifier"

/-- The value a missing record field takes, if it may be missing. -/
def whenMissing : Shape → Option Json
  | .fallback d _ => some d
  | .opt _ => some .null
  | _ => none

/-- The value a field takes when a record given as a list is too short. -/
def whenShort : Shape → Option Json
  | .fallback d _ => some d
  | _ => none

end Shape

end Json

end Schemata
