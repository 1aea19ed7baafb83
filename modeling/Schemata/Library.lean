import Schemata.Read
import Schemata.Schema.Patch
import Schemata.Json.PatchRead
import Schemata.Render.Ddl

/-!
# Text front doors

The library's entry points for callers that hand over and take back JSON
text: reading a schema source, applying a patch to a schema, and rendering a
patch or a schema as DDL. Each answers the JSON text of its result, or the
message of the first thing that went wrong, with no kind attached.

A caller that reads the answer back as a value reads it with the same number
rules as every other JSON text, so a float may come back one unit in the last
place away from the one that was written.
-/

namespace Schemata

namespace Library

/-- The JSON form of a problem met while reading a source: its name, its
message and, when it has one, its location. -/
def problemJson (p : Problem) : Json :=
  .obj ([("name", .str p.name), ("message", .str p.message)] ++
    match p.location? with
    | some l => [("location", .num (.nat l))]
    | none => [])

/-- Read a source in the named format (detected when none is named), with an
optional chunk size, into the text of `{"value", "errors"}`. -/
def parseSchema (source : String) (format : Option String) (chunkSize : Option Nat) :
    Except String String := do
  let f ← match format with
    | some name =>
      match Format.ofName? name with
      | some f => pure f
      | none => throw ("unknown format: " ++ name)
    | none => pure Format.auto
  let r := f.read source ((chunkSize.map (max 1)).getD defaultChunkSize)
  pure (Json.obj [("value", r.value.toJson), ("errors", .arr (r.problems.map problemJson))]).render

/-- Apply the patch in `patchText` to the schema in `schemaText`, answering
the text of the patched schema. -/
def applyPatch (schemaText patchText : String) : Except String String := do
  let s ← (Schema.readText schemaText).mapError (·.message)
  let ops ← (PatchOp.readList patchText).mapError (·.message)
  let s' ← (s.apply ops).mapError (·.message)
  pure s'.toJson.render

/-- Render the patch in `patchText` as DDL, answering the text of
`{"value", "errors"}`. -/
def deparseOperations (patchText : String) : Except String String := do
  let ops ← (PatchOp.readList patchText).mapError (·.message)
  let (value, errors) := Ddl.patchDdl ops
  pure (Json.obj [("value", .str value), ("errors", .arr (errors.map fun e => .str e.message))]).render

/-- Render the schema in `schemaText` as DDL; the answer is the DDL itself,
not JSON. -/
def deparseSchema (schemaText : String) : Except String String := do
  let s ← (Schema.readText schemaText).mapError (·.message)
  pure (Ddl.schemaDdl s)

end Library

end Schemata
