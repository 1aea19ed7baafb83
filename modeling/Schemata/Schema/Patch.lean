import Schemata.Schema.Json
import Schemata.Json.Patch

/-!
# Patching a schema

A schema is patched through its JSON form: write it as JSON, apply the
operations, and read the result back as a schema. The result must again be a
valid schema.
-/

namespace Schemata

/-- Why a patch does not apply to a schema. -/
inductive ApplyError where
  | patch (e : PatchError)
  | invalidResult (f : Json.DecodeFault)
deriving Repr, Inhabited

def ApplyError.message : ApplyError → String
  | .patch e => e.message
  | .invalidResult f => "patched document is not a valid schema: " ++ f.message

/-- Apply a patch to a schema. -/
def Schema.apply (s : Schema) (ops : List PatchOp) : Except ApplyError Schema :=
  match Json.applyPatch s.toJson ops with
  | .error e => .error (.patch e)
  | .ok doc =>
    match Schema.ofJson? doc with
    | .ok s' => .ok s'
    | .error f => .error (.invalidResult f)

end Schemata
