import Schemata.Json.Diff
import Schemata.Json.PatchRead

/-!
# Version histories

A history is an initial document and a list of numbered versions, each with
the patch that made it and the patch that undoes it. The content at number
`n` replays, from the initial document, the patches of all versions numbered
at most `n` in ascending order (versions of equal number in stored order).

Preparing a version replays up to the number the client last saw, applies the
new patch, and computes the undoing patch as the difference back; only then
is the client's number checked against the latest. Numbers are 32-bit words:
the number after `4294967295` is `0`, while the latest stays the highest
stored. Committing stores a prepared version if it is numbered one past the
latest. Undoing applies the
undoing patch of the latest version (the last stored among equals) to the
latest content and drops it.
-/

namespace Schemata

/-- One stored version. -/
structure VersionRecord where
  number : UInt32
  patch : List PatchOp
  reversePatch : List PatchOp
deriving Repr, Inhabited

/-- A version ready to be committed. -/
structure PreparedVersion where
  content : Json
  record : VersionRecord
deriving Repr, Inhabited

/-- A document and its versions. -/
structure VersionHistory where
  initial : Json
  versions : List VersionRecord := []
deriving Repr, Inhabited

/-- Why a step on a history fails. -/
inductive VersionError where
  | conflict (expected actual : UInt32)
  | replay (number : UInt32) (cause : PatchError)
  | apply (cause : PatchError)
  | nothingToUndo
deriving Repr, Inhabited

namespace VersionError

def message : VersionError → String
  | .conflict _ _ => "Version conflict: The schema has been modified since you last loaded it"
  | .replay n e => "failed to replay version " ++ toString n ++ ": " ++ e.message
  | .apply e => "failed to apply new patch: " ++ e.message
  | .nothingToUndo => "no version to undo"

end VersionError

namespace VersionRecord

def toJson (r : VersionRecord) : Json :=
  .obj [("number", .num (.nat r.number.toNat)), ("patch", .arr (r.patch.map PatchOp.toJson)),
    ("reversePatch", .arr (r.reversePatch.map PatchOp.toJson))]

end VersionRecord

namespace VersionHistory

def toJson (h : VersionHistory) : Json :=
  .obj [("initialSnapshot", h.initial), ("versions", .arr (h.versions.map VersionRecord.toJson))]

/-- The highest stored number, `0` when there is none. -/
def latestNumber (h : VersionHistory) : UInt32 := h.versions.foldl (fun m v => max m v.number) 0

/-- The content after all versions numbered at most `n`. -/
def contentAt (h : VersionHistory) (n : UInt32) : Except VersionError Json :=
  let chosen := (h.versions.filter (·.number ≤ n)).mergeSort (fun a b => a.number ≤ b.number)
  chosen.foldlM (fun content v =>
    match Json.applyPatch content v.patch with
    | .ok c => .ok c
    | .error e => .error (.replay v.number e)) h.initial

def latestContent (h : VersionHistory) : Except VersionError Json := h.contentAt h.latestNumber

/-- Prepare a version on top of the version numbered `expected`. -/
def prepare (h : VersionHistory) (expected : UInt32) (patch : List PatchOp) :
    Except VersionError PreparedVersion := do
  let current ← h.contentAt expected
  let content ← match Json.applyPatch current patch with
    | .ok c => pure c
    | .error e => throw (.apply e)
  let reverse := Json.diff content current
  let actual := h.latestNumber
  if expected != actual then throw (.conflict expected actual)
  pure ⟨content, ⟨actual + 1, patch, reverse⟩⟩

/-- Store a prepared version numbered one past the latest. A rejected version
reports the number before its own, `0` for version `0`. -/
def commit (h : VersionHistory) (p : PreparedVersion) : Except VersionError (Json × VersionHistory) :=
  let actual := h.latestNumber
  let before := if p.record.number == 0 then 0 else p.record.number - 1
  if p.record.number != actual + 1 then .error (.conflict before actual)
  else .ok (p.content, { h with versions := h.versions ++ [p.record] })

/-- The position of the last version with the highest number. -/
def latestPosition (vs : List VersionRecord) : Option Nat :=
  (vs.zipIdx.foldl (fun best (v, i) =>
    match best with
    | some (n, _) => if v.number ≥ n then some (v.number, i) else best
    | none => some (v.number, i)) none).map (·.2)

/-- Drop the latest version, returning the content it reverts to. -/
def undo (h : VersionHistory) : Except VersionError (Json × VersionHistory) := do
  let latest ← h.latestContent
  let some pos := latestPosition h.versions | throw .nothingToUndo
  let record := h.versions.getD pos default
  let reverted ← match Json.applyPatch latest record.reversePatch with
    | .ok c => pure c
    | .error e => throw (.replay record.number e)
  pure (reverted, { h with versions := h.versions.eraseIdx pos })

/-- The shape of a history in JSON. -/
def shape : Json.Shape :=
  .record "VersionHistory"
    [("initialSnapshot", .any),
     ("versions", .fallback (.arr []) (.seq (.record "VersionRecord"
        [("number", .nat32), ("patch", PatchOp.listShape), ("reversePatch", PatchOp.listShape)])))]

/-- A history from its canonical value. -/
def ofCanonical (v : Json) : VersionHistory :=
  match v with
  | .obj fs =>
    let records := match Json.lookup "versions" fs with
      | some (.arr xs) => xs.map fun
        | .obj r =>
          let number := match Json.lookup "number" r with
            | some (.num (.nat n)) => n.toUInt32
            | _ => 0
          ⟨number, PatchOp.listOfCanonical ((Json.lookup "patch" r).getD (.arr [])),
            PatchOp.listOfCanonical ((Json.lookup "reversePatch" r).getD (.arr []))⟩
        | _ => default
      | _ => []
    ⟨(Json.lookup "initialSnapshot" fs).getD .null, records⟩
  | _ => default

/-- Read a history from JSON text. -/
def readText (text : String) : Except Json.ReadError VersionHistory :=
  (shape.readText text).map ofCanonical

end VersionHistory

end Schemata
