import Mathlib
import Schemata.Proofs.DiffApply
import Schemata.Schema.Patch

/-!
# Adding into an object is an upsert

An `add` whose parent is an object writes its value under the key: a fresh key is appended,
a present one keeps its position and takes the new value. An `add` at the empty pointer swaps
in the whole document. Either way, the place the operation writes is left holding what the
operation would write there again, so applying it a second time changes nothing
(`addsIntoObject_runs_twice`); the parent an array is the exception, since there the value
is inserted a second time.

A patch of two equal such additions therefore gives the document, with its key order, that
the single addition gives, and a schema patched with it is the schema patched once
(`applyPatch_add_twice`).
-/

namespace Schemata

namespace Json

/-- An `add` at `path` writes the whole document, or into an object that the parent of its
pointer finds in `doc`. -/
def AddsIntoObject (path : String) (doc : Json) : Prop :=
  Pointer.segments? path = some [] ∨
    ∃ segs fields, Pointer.segments? path = some segs ∧ segs ≠ [] ∧
      getAt? segs.dropLast doc = some (.obj fields)

section Upsert

variable {path : String} {value doc doc' : Json} {i : Nat}

/-- A patch of one operation is that operation. -/
lemma go_singleton_eq (op : PatchOp) : applyPatch.go i doc [op] = applyOp i doc op := by
  cases step : applyOp i doc op <;> simp [applyPatch.go, step, bind, Except.bind]

/-- An `add` whose parent is an object writes the object with the key set at the parent's
place. -/
lemma applyOp_add_into_obj {segs : List String} {fields : List (String × Json)}
    (named : Pointer.segments? path = some segs) (inner : segs ≠ [])
    (found : getAt? segs.dropLast doc = some (.obj fields)) :
    applyOp i doc (.add path value) =
      (setAt segs.dropLast (.obj (setField (segs.getLast?.getD "") value fields)) doc).elim
        (.error (.pathNotFound i path)) .ok := by
  obtain ⟨first, rest, rfl⟩ := List.exists_cons_of_ne_nil inner
  have walk : modifyAt (applyToParent (.add path value) ((first :: rest).getLast?.getD ""))
      (first :: rest).dropLast doc =
        setAt (first :: rest).dropLast (.obj (setField ((first :: rest).getLast?.getD "") value fields)) doc :=
    modifyAt_of_getAt? found applyToParent_add_obj
  simp only [applyOp, named, PatchOp.path, walk]
  cases setAt (first :: rest).dropLast
    (.obj (setField ((first :: rest).getLast?.getD "") value fields)) doc <;> rfl

/-- The second of two equal additions into an object finds the key set and sets it again. -/
lemma applyOp_add_into_obj_twice {segs : List String} {fields : List (String × Json)}
    (named : Pointer.segments? path = some segs) (inner : segs ≠ [])
    (found : getAt? segs.dropLast doc = some (.obj fields))
    (first : applyOp i doc (.add path value) = .ok doc') (j : Nat) :
    applyOp j doc' (.add path value) = .ok doc' := by
  rw [applyOp_add_into_obj named inner found] at first
  cases written : setAt segs.dropLast (.obj (setField (segs.getLast?.getD "") value fields)) doc with
  | none => simp [written] at first
  | some w =>
    simp only [written, Option.elim_some, Except.ok.injEq] at first
    subst first
    -- the parent now holds the object with the key set; setting it again is the same write
    have again : getAt? segs.dropLast w = some (.obj (setField (segs.getLast?.getD "") value fields)) :=
      getAt?_setAt written
    rw [applyOp_add_into_obj named inner again, setField_setField, setAt_setAt written, written,
      Option.elim_some]

/-- An addition that writes the whole document or into an object runs a second time without
changing anything. -/
lemma addsIntoObject_runs_twice (into : AddsIntoObject path doc)
    (first : applyOp i doc (.add path value) = .ok doc') (j : Nat) :
    applyOp j doc' (.add path value) = .ok doc' := by
  rcases into with whole | ⟨segs, fields, named, inner, found⟩
  · have swapped : ∀ k d, applyOp k d (.add path value) = .ok value := by
      intro k d
      simp [applyOp, whole, PatchOp.path]
    rw [swapped] at first
    cases first
    exact swapped j _
  · exact applyOp_add_into_obj_twice named inner found first j

end Upsert

/-- **An addition into an object is idempotent.** When an `add` writes the whole document or
into an object found at its parent, and applies to `doc` giving `r`, the patch of the same
addition twice gives `r` too, with the same order of keys; and a schema whose JSON form is
`doc` is patched by the two additions exactly as by one. -/
theorem applyPatch_add_twice {doc r : Json} {path : String} {value : Json}
    (into : AddsIntoObject path doc) (applied : applyPatch doc [.add path value] = .ok r) :
    applyPatch doc [.add path value, .add path value] = .ok r ∧
      ∀ s : Schema, s.toJson = doc →
        s.apply [.add path value, .add path value] = s.apply [.add path value] := by
  have once : applyOp 0 doc (.add path value) = .ok r := by
    rwa [applyPatch, go_singleton_eq] at applied
  have twice : applyPatch doc [.add path value, .add path value] = .ok r := by
    have run : applyPatch.go 0 doc ([.add path value] ++ [.add path value]) = .ok r :=
      go_append (go_singleton once) (go_singleton (addsIntoObject_runs_twice into once _))
    exact run
  refine ⟨twice, ?_⟩
  rintro s rfl
  simp only [Schema.apply, twice, applied]

/-- Adding a table to an empty schema twice adds it once. -/
theorem applyPatch_add_twice_table :
    AddsIntoObject "/tables/t" Schema.empty.toJson ∧
      applyPatch Schema.empty.toJson [.add "/tables/t" (Table.new "t").toJson] =
        .ok (Schema.empty.addTable (Table.new "t")).toJson ∧
      applyPatch Schema.empty.toJson
          [.add "/tables/t" (Table.new "t").toJson, .add "/tables/t" (Table.new "t").toJson] =
        .ok (Schema.empty.addTable (Table.new "t")).toJson ∧
      ∀ s : Schema, s.toJson = Schema.empty.toJson →
        s.apply [.add "/tables/t" (Table.new "t").toJson, .add "/tables/t" (Table.new "t").toJson] =
          s.apply [.add "/tables/t" (Table.new "t").toJson] := by
  have into : AddsIntoObject "/tables/t" Schema.empty.toJson := .inr ⟨["tables", "t"], [], rfl, by simp, rfl⟩
  have applied : applyPatch Schema.empty.toJson [.add "/tables/t" (Table.new "t").toJson] =
      .ok (Schema.empty.addTable (Table.new "t")).toJson := rfl
  exact ⟨into, applied, applyPatch_add_twice into applied⟩

end Json

end Schemata
