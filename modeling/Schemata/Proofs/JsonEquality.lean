import Mathlib
import Schemata.Proofs.PatchLocality

/-!
# Well-formed documents and equality as data

A document of the program is more than a `Json` tree: the map behind an object holds each key
once, an array's length is a machine word, and a number never holds a NaN or an infinity.
`Json.wellFormed` checks exactly these three facts, at every depth, and every law about
patches and differences below is stated for the documents it accepts.

On well-formed documents `Json.same` is what it claims to be:

* it is reflexive (`same_self`), which fails for a tree holding a NaN;
* two objects are the same when they have as many fields and every field of the first is
  found, with the same value, in the second (`same_obj_iff`), so the order of keys does not
  matter;
* two arrays are the same element by element (`same_arr_iff`).
-/

namespace Schemata

namespace Json

/-- Induction over a document, with every element of an array and every value of an object as
hypotheses. -/
theorem induction {motive : Json → Prop}
    (null : motive .null) (bool : ∀ b, motive (.bool b)) (num : ∀ n, motive (.num n))
    (str : ∀ s, motive (.str s))
    (arr : ∀ items, (∀ x ∈ items, motive x) → motive (.arr items))
    (obj : ∀ fields, (∀ kv ∈ fields, motive kv.2) → motive (.obj fields)) (v : Json) :
    motive v :=
  @Json.rec motive (fun items => ∀ x ∈ items, motive x) (fun fields => ∀ kv ∈ fields, motive kv.2)
    (fun kv => motive kv.2)
    null bool num str arr obj (by simp) (fun _ _ head tail => List.forall_mem_cons.mpr ⟨head, tail⟩)
    (by simp) (fun _ _ head tail => List.forall_mem_cons.mpr ⟨head, tail⟩) (fun _ _ h => h) v

/-! ## Well-formed documents -/

mutual
/-- Whether a document is one the program can hold: the keys of every object are distinct,
every array is shorter than `2 ^ 64`, and every float is finite. -/
def wellFormed : Json → Bool
  | .num (.float x) => x.isFinite
  | .arr items => decide (items.length < 2 ^ 64) && allWellFormed items
  | .obj fields => decide (keys fields).Nodup && fieldsWellFormed fields
  | _ => true

def allWellFormed : List Json → Bool
  | [] => true
  | x :: rest => wellFormed x && allWellFormed rest

def fieldsWellFormed : List (String × Json) → Bool
  | [] => true
  | (_, v) :: rest => wellFormed v && fieldsWellFormed rest
end

lemma allWellFormed_iff {items : List Json} :
    allWellFormed items = true ↔ ∀ x ∈ items, x.wellFormed = true := by
  induction items with
  | nil => simp [allWellFormed]
  | cons x rest ih => simp [allWellFormed, ih]

lemma fieldsWellFormed_iff {fields : List (String × Json)} :
    fieldsWellFormed fields = true ↔ ∀ kv ∈ fields, kv.2.wellFormed = true := by
  induction fields with
  | nil => simp [fieldsWellFormed]
  | cons kv rest ih => obtain ⟨k, v⟩ := kv; simp [fieldsWellFormed, ih]

@[simp] lemma wellFormed_arr {items : List Json} :
    (arr items).wellFormed = true ↔ items.length < 2 ^ 64 ∧ ∀ x ∈ items, x.wellFormed = true := by
  simp [wellFormed, allWellFormed_iff]

@[simp] lemma wellFormed_obj {fields : List (String × Json)} :
    (obj fields).wellFormed = true ↔
      (keys fields).Nodup ∧ ∀ kv ∈ fields, kv.2.wellFormed = true := by
  simp [wellFormed, fieldsWellFormed_iff]

/-! ## Looking up a key -/

section Lookup

variable {key : String} {x : Json} {fields : List (String × Json)}

lemma lookupIn_eq_lookup : lookupIn key fields = lookup key fields := by
  induction fields with
  | nil => rfl
  | cons kv rest ih => obtain ⟨k, v⟩ := kv; simp [lookupIn, lookup, ih]

lemma mem_of_lookup (h : lookup key fields = some x) : (key, x) ∈ fields := by
  induction fields with
  | nil => simp [lookup] at h
  | cons kv rest ih =>
    obtain ⟨k, v⟩ := kv
    by_cases same : k = key
    · subst same; simp_all [lookup]
    · simp [lookup, same] at h; simp [ih h]

/-- In an object whose keys are distinct, a field is found under its key. -/
lemma lookup_of_mem (distinct : (keys fields).Nodup) (h : (key, x) ∈ fields) :
    lookup key fields = some x := by
  induction fields with
  | nil => simp at h
  | cons kv rest ih =>
    obtain ⟨k, v⟩ := kv
    simp only [keys, List.map_cons, List.nodup_cons] at distinct
    rcases List.mem_cons.mp h with same | later
    · cases same; simp [lookup]
    · have other : k ≠ key := fun e => distinct.1 (e ▸ List.mem_map_of_mem later)
      simp [lookup, other, ih distinct.2 later]

lemma hasField_iff_mem_keys : hasField key fields = true ↔ key ∈ keys fields := by
  simp [hasField, keys]

lemma lookup_isSome_iff : (lookup key fields).isSome ↔ key ∈ keys fields := by
  rw [lookup_isSome, hasField_iff_mem_keys]

end Lookup

/-! ## Equality as data -/

lemma sameFields_iff {xs ys all : List (String × Json)} :
    sameFields xs ys all = true ↔ ∀ kv ∈ xs, ∃ w, lookup kv.1 all = some w ∧ same kv.2 w = true := by
  induction xs with
  | nil => simp [sameFields]
  | cons kv rest ih =>
    obtain ⟨k, v⟩ := kv
    simp only [sameFields, lookupIn_eq_lookup, Bool.and_eq_true, ih, List.forall_mem_cons]
    cases lookup k all <;> simp

lemma sameItems_iff {xs ys : List Json} :
    sameItems xs ys = true ↔ List.Forall₂ (fun x y => same x y = true) xs ys := by
  induction xs generalizing ys with
  | nil => cases ys <;> simp [sameItems]
  | cons x rest ih => cases ys <;> simp [sameItems, ih]

lemma same_obj_iff {xs ys : List (String × Json)} :
    (obj xs).same (obj ys) = true ↔
      xs.length = ys.length ∧ ∀ kv ∈ xs, ∃ w, lookup kv.1 ys = some w ∧ same kv.2 w = true := by
  simp [same, sameFields_iff]

lemma same_arr_iff {xs ys : List Json} :
    (arr xs).same (arr ys) = true ↔ List.Forall₂ (fun x y => same x y = true) xs ys := by
  simp [same, sameItems_iff]

lemma Number.same_self {n : Number} (finite : (num n).wellFormed = true) : n.same n = true := by
  cases n with
  | nat => simp [Number.same]
  | negInt => simp [Number.same]
  | float x =>
    simp only [wellFormed, Binary64.isFinite, bne_iff_ne, ne_eq] at finite
    simp [Number.same, Binary64.sameValue, Binary64.isNaN, finite]

/-- Every well-formed document is the same as itself. -/
theorem same_self {v : Json} (h : v.wellFormed = true) : v.same v = true := by
  induction v using Json.induction with
  | null | bool | str => simp [same]
  | num n => simpa [same] using Number.same_self h
  | arr items ih =>
    rw [wellFormed_arr] at h
    rw [same_arr_iff, List.forall₂_same]
    exact fun x hx => ih x hx (h.2 x hx)
  | obj fields ih =>
    rw [wellFormed_obj] at h
    refine same_obj_iff.mpr ⟨rfl, fun kv hkv => ⟨kv.2, lookup_of_mem h.1 hkv, ?_⟩⟩
    exact ih kv hkv (h.2 kv hkv)

end Json

end Schemata
