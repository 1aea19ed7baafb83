import Schemata.Json.Patch

/-!
# Differences between documents

`Json.diff a b` is a patch that turns `a` into `b`. Two objects are compared
key by key and two arrays index by index; anything else that is not the same
is replaced. Keys and indexes of `a` are visited from last to first, so that
removals from an array leave the earlier indexes in place, and additions (keys
only in `b`, in `b`'s order, or indexes past the end of `a`) follow.
-/

namespace Schemata

namespace Json

mutual
/-- The operations turning `a` into `b` at `path`. -/
def diffAt (path : String) : Json → Json → List PatchOp
  | .obj old, .obj new =>
    diffMembers path old new ++
      (new.filter fun (k, _) => !hasField k old).map fun (k, v) =>
        .add (path ++ "/" ++ Pointer.escapeSegment k) v
  | .arr old, .arr new =>
    diffElements path 0 old new ++
      ((new.zipIdx.drop old.length).map fun (v, i) => .add (path ++ "/" ++ toString i) v)
  | a, b => if same a b then [] else [.replace path b]

/-- Members of the old object, the last one's operations first: recurse or
remove. -/
def diffMembers (path : String) : List (String × Json) → List (String × Json) → List PatchOp
  | [], _ => []
  | (k, v) :: rest, new =>
    let child := path ++ "/" ++ Pointer.escapeSegment k
    diffMembers path rest new ++
      (match lookup k new with
       | some w => diffAt child v w
       | none => [.remove child])

/-- Elements of the old array from index `i`, the last one's operations
first: recurse or remove. -/
def diffElements (path : String) (i : Nat) : List Json → List Json → List PatchOp
  | [], _ => []
  | v :: rest, new =>
    let child := path ++ "/" ++ toString i
    diffElements path (i + 1) rest new ++
      (match new[i]? with
       | some w => diffAt child v w
       | none => [.remove child])
end

/-- The operations turning `a` into `b`. -/
def diff (a b : Json) : List PatchOp := diffAt "" a b

end Json

end Schemata
