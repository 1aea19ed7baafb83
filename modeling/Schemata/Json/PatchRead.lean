import Schemata.Json.Patch
import Schemata.Json.Reader

/-!
# Reading patches

A patch in JSON is a list of objects tagged by `op` (`add`, `remove` or
`replace`) with a `path` string and, except for `remove`, a `value`. Other
members are ignored.
-/

namespace Schemata

namespace PatchOp

/-- The shape of one operation. -/
def shape : Json.Shape :=
  .tagged "Operation" "op"
    [("add", "Add", [("path", .text), ("value", .any)]),
     ("remove", "Remove", [("path", .text)]),
     ("replace", "Replace", [("path", .text), ("value", .any)])]

/-- The shape of a patch. -/
def listShape : Json.Shape := .seq shape

/-- The text of a canonical string member. -/
def textOf (fields : List (String × Json)) (k : String) : String :=
  match Json.lookup k fields with
  | some (.str s) => s
  | _ => ""

/-- An operation from its canonical value. -/
def ofCanonical : Json → PatchOp
  | .obj fields =>
    let path := textOf fields "path"
    let value := (Json.lookup "value" fields).getD .null
    match Json.lookup "op" fields with
    | some (.str "remove") => .remove path
    | some (.str "replace") => .replace path value
    | _ => .add path value
  | _ => .remove ""

/-- A patch from its canonical value. -/
def listOfCanonical : Json → List PatchOp
  | .arr items => items.map ofCanonical
  | _ => []

/-- Read a patch from JSON text. -/
def readList (text : String) : Except Json.ReadError (List PatchOp) :=
  (listShape.readText text).map listOfCanonical

end PatchOp

end Schemata
