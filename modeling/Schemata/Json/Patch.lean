import Schemata.Json.Value
import Schemata.Json.Pointer

/-!
# Patches

A patch is a list of operations applied in order to a copy of a document.
`add` writes a value at a place whose parent exists: into an object (a present
key keeps its position) or into an array before the given index (`-` appends);
`replace` overwrites a value that is present; `remove` deletes one, later
object keys and array elements moving up. At the empty pointer `add` and
`replace` swap in the whole document and `remove` fails. Every step on the way
to the parent must exist; array indexes are decimal without leading zeros.
-/

namespace Schemata

/-- One operation of a patch. -/
inductive PatchOp where
  | add (path : String) (value : Json)
  | remove (path : String)
  | replace (path : String) (value : Json)
deriving Repr, Inhabited

/-- Why a patch does not apply. -/
inductive PatchError where
  | invalidPath (path : String)
  | pathNotFound (index : Nat) (path : String)
deriving Repr, Inhabited

namespace PatchError

def message : PatchError → String
  | .invalidPath p => "invalid JSON pointer \"" ++ p ++ "\""
  | .pathNotFound i p => "operation " ++ toString i ++ ": path \"" ++ p ++ "\" not found"

end PatchError

namespace PatchOp

def path : PatchOp → String
  | .add p _ => p
  | .remove p => p
  | .replace p _ => p

/-- The operation as a JSON value: its `op` name, `path` and `value`. -/
def toJson : PatchOp → Json
  | .add p v => .obj [("op", .str "add"), ("path", .str p), ("value", v)]
  | .remove p => .obj [("op", .str "remove"), ("path", .str p)]
  | .replace p v => .obj [("op", .str "replace"), ("path", .str p), ("value", v)]

end PatchOp

namespace Json

/-- An array index: decimal digits without a leading zero (`0` itself
allowed), below `2 ^ 64`. -/
def arrayIndex? (segment : String) : Option Nat :=
  let cs := segment.toList
  if cs.isEmpty || !cs.all (fun c => '0' ≤ c && c ≤ '9') then none
  else if cs.length > 1 && cs.head? == some '0' then none
  else
    let n := cs.foldl (fun acc c => acc * 10 + (c.toNat - '0'.toNat)) 0
    if n < Nat.pow 2 64 then some n else none

/-- The child of a value at one segment. -/
def child? (v : Json) (segment : String) : Option Json :=
  match v with
  | .obj fields => lookup segment fields
  | .arr items => (arrayIndex? segment).bind fun i => items[i]?
  | _ => none

/-- Replace the child at one segment, which must exist. -/
def setChild? (v : Json) (segment : String) (new : Json) : Option Json :=
  match v with
  | .obj fields => if hasField segment fields then some (.obj (setField segment new fields)) else none
  | .arr items =>
    match arrayIndex? segment with
    | some i => if i < items.length then some (.arr (items.set i new)) else none
    | none => none
  | _ => none

/-- Change the value at the end of `path` by `f`; every step must exist. -/
def modifyAt (f : Json → Option Json) : List String → Json → Option Json
  | [], v => f v
  | s :: rest, v => do
    let c ← child? v s
    let c' ← modifyAt f rest c
    setChild? v s c'

/-- The effect of an operation on the parent of its place. -/
def applyToParent (op : PatchOp) (leaf : String) (parent : Json) : Option Json :=
  match op, parent with
  | .add _ value, .obj fields => some (.obj (setField leaf value fields))
  | .add _ value, .arr items =>
    if leaf == "-" then some (.arr (items ++ [value]))
    else
      match arrayIndex? leaf with
      | some i => if i ≤ items.length then some (.arr (items.insertIdx i value)) else none
      | none => none
  | .replace _ value, p => setChild? p leaf value
  | .remove _, .obj fields =>
    if hasField leaf fields then some (.obj (eraseField leaf fields)) else none
  | .remove _, .arr items =>
    match arrayIndex? leaf with
    | some i => if i < items.length then some (.arr (items.eraseIdx i)) else none
    | none => none
  | _, _ => none

/-- Apply one operation; `index` is its place in the patch. -/
def applyOp (index : Nat) (doc : Json) (op : PatchOp) : Except PatchError Json :=
  let notFound := PatchError.pathNotFound index op.path
  match Pointer.segments? op.path with
  | none => .error (.invalidPath op.path)
  | some [] =>
    match op with
    | .add _ v => .ok v
    | .replace _ v => .ok v
    | .remove _ => .error notFound
  | some segs =>
    match modifyAt (applyToParent op (segs.getLast?.getD "")) segs.dropLast doc with
    | some v => .ok v
    | none => .error notFound

/-- Apply a patch, operation by operation. -/
def applyPatch (doc : Json) (ops : List PatchOp) : Except PatchError Json :=
  go 0 doc ops
where
  go : Nat → Json → List PatchOp → Except PatchError Json
    | _, doc, [] => .ok doc
    | i, doc, op :: rest => do
      let doc ← applyOp i doc op
      go (i + 1) doc rest

end Json

end Schemata
