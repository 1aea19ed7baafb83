import Mathlib
import Schemata.Proofs.PointerSegments

/-!
# Patches act at the place their pointer names

`Json.modifyAt` walks a document along a path of segments and rebuilds every step on the way
back with `Json.setChild?`. This module gives the walk its laws, in the form of a lens:

* `Json.getAt?` reads the value at a path and `Json.setAt` writes one there, both failing when
  a step is missing;
* a write is read back (`getAt?_setAt`), a second write replaces the first (`setAt_setAt`),
  and a write succeeds wherever a read does (`setAt_of_getAt?`);
* a walk along `p ++ q` is a walk along `p` that walks along `q` from there
  (`modifyAt_append`).

An operation whose pointer is written from the segments `p ++ [key]` therefore changes only
the value at `p`, by its effect on a parent (`applyOp_of_modifyAt`); running a patch is
running its parts in turn (`go_append`). The structural diff is proved against these laws,
and never against the walk itself.
-/

namespace Schemata

namespace Json

/-! ## Object fields -/

/-- The keys of an object's fields, in order. -/
def keys (fields : List (String × Json)) : List String := fields.map Prod.fst

section Fields

variable {key k : String} {x y v : Json} {fields pre rest : List (String × Json)}

/-! Each function on fields, one entry at a time. -/

lemma lookup_cons : lookup key ((k, v) :: rest) = if k == key then some v else lookup key rest := rfl

lemma setField_nil : setField key x [] = [(key, x)] := rfl

lemma setField_cons :
    setField key x ((k, v) :: rest) = if k == key then (k, x) :: rest else (k, v) :: setField key x rest :=
  rfl

lemma eraseField_cons :
    eraseField key ((k, v) :: rest) = if k == key then rest else (k, v) :: eraseField key rest :=
  rfl

lemma hasField_eq_any : hasField key fields = fields.any (·.1 == key) := rfl

@[simp] lemma lookup_setField_self : lookup key (setField key x fields) = some x := by
  induction fields with
  | nil => simp [setField_nil, lookup_cons]
  | cons kv rest ih =>
    obtain ⟨k, v⟩ := kv
    by_cases same : k = key <;> simp [setField_cons, lookup_cons, same, ih]

@[simp] lemma setField_setField : setField key y (setField key x fields) = setField key y fields := by
  induction fields with
  | nil => simp [setField_nil, setField_cons]
  | cons kv rest ih =>
    obtain ⟨k, v⟩ := kv
    by_cases same : k = key <;> simp [setField_cons, same, ih]

@[simp] lemma hasField_setField_self : hasField key (setField key x fields) = true := by
  induction fields with
  | nil => simp [setField_nil, hasField_eq_any]
  | cons kv rest ih =>
    obtain ⟨k, v⟩ := kv
    by_cases same : k = key <;> simp_all [setField_cons, hasField_eq_any]

/-- A key that is not among the keys of `kv :: rest` is neither `kv`'s nor among `rest`'s. -/
lemma not_mem_keys_cons {kv : String × Json} (fresh : key ∉ keys (kv :: rest)) :
    kv.1 ≠ key ∧ key ∉ keys rest := by
  simp only [keys, List.map_cons, List.mem_cons, not_or] at fresh
  exact ⟨Ne.symm fresh.1, fresh.2⟩

lemma lookup_isSome : (lookup key fields).isSome = hasField key fields := by
  induction fields with
  | nil => rfl
  | cons kv rest ih =>
    obtain ⟨k, v⟩ := kv
    by_cases same : k = key <;> simp_all [lookup_cons, hasField_eq_any]

/-- Writing back the value found under a key changes nothing. -/
lemma setField_of_lookup (found : lookup key fields = some x) : setField key x fields = fields := by
  induction fields with
  | nil => cases found
  | cons kv rest ih =>
    obtain ⟨k, v⟩ := kv
    by_cases same : k = key
    · subst same; simp_all [lookup_cons, setField_cons]
    · simp_all [lookup_cons, setField_cons]

/-- A key that is not present is written at the end. -/
lemma setField_of_not_mem (fresh : key ∉ keys fields) : setField key x fields = fields ++ [(key, x)] := by
  induction fields with
  | nil => rfl
  | cons kv rest ih =>
    obtain ⟨k, v⟩ := kv
    obtain ⟨other, later⟩ : k ≠ key ∧ key ∉ keys rest := not_mem_keys_cons fresh
    simp [setField_cons, other, ih later]

/-! The field under a key, with only other keys before it. -/

lemma lookup_append_cons (fresh : key ∉ keys pre) : lookup key (pre ++ (key, v) :: rest) = some v := by
  induction pre with
  | nil => simp [lookup_cons]
  | cons kv pre ih =>
    obtain ⟨k, v⟩ := kv
    obtain ⟨other, later⟩ : k ≠ key ∧ key ∉ keys pre := not_mem_keys_cons fresh
    simp [lookup_cons, other, ih later]

lemma setField_append_cons (fresh : key ∉ keys pre) :
    setField key x (pre ++ (key, v) :: rest) = pre ++ (key, x) :: rest := by
  induction pre with
  | nil => simp [setField_cons]
  | cons kv pre ih =>
    obtain ⟨k, v⟩ := kv
    obtain ⟨other, later⟩ : k ≠ key ∧ key ∉ keys pre := not_mem_keys_cons fresh
    simp [setField_cons, other, ih later]

lemma eraseField_append_cons (fresh : key ∉ keys pre) :
    eraseField key (pre ++ (key, v) :: rest) = pre ++ rest := by
  induction pre with
  | nil => simp [eraseField_cons]
  | cons kv pre ih =>
    obtain ⟨k, v⟩ := kv
    obtain ⟨other, later⟩ : k ≠ key ∧ key ∉ keys pre := not_mem_keys_cons fresh
    simp [eraseField_cons, other, ih later]

lemma hasField_append_cons : hasField key (pre ++ (key, v) :: rest) = true := by
  simp [hasField_eq_any]

end Fields

/-! ## One step -/

/-- The value at the end of a path of segments, when every step exists. -/
def getAt? : List String → Json → Option Json
  | [], v => some v
  | s :: rest, v => (child? v s).bind (getAt? rest)

/-- The document with the value at the end of `path` replaced by `x`, when every step
exists. -/
def setAt (path : List String) (x v : Json) : Option Json :=
  modifyAt (fun _ => some x) path v

section Step

variable {v w c d : Json} {s : String} {fields : List (String × Json)} {items : List Json}

/-! Reading and writing one child, by the kind of the parent. -/

lemma child?_obj : child? (obj fields) s = lookup s fields := rfl

lemma child?_arr : child? (arr items) s = (arrayIndex? s).bind fun i => items[i]? := rfl

lemma setChild?_obj_eq_ite :
    setChild? (obj fields) s d = if hasField s fields then some (obj (setField s d fields)) else none :=
  rfl

lemma setChild?_arr_eq_bind :
    setChild? (arr items) s d =
      (arrayIndex? s).bind fun i => if i < items.length then some (arr (items.set i d)) else none := by
  -- the index is matched on inside the definition: expose it before splitting on it
  delta setChild?
  cases arrayIndex? s <;> rfl

/-- A child that was written reads back. -/
lemma child?_of_setChild? (h : setChild? v s c = some w) : child? w s = some c := by
  cases v with
  | obj fields =>
    rw [setChild?_obj_eq_ite] at h
    split at h
    · cases h; simp [child?_obj]
    · cases h
  | arr items =>
    simp only [setChild?_arr_eq_bind, Option.bind_eq_some_iff] at h
    obtain ⟨i, index, set⟩ := h
    split at set
    · cases set; simp_all [child?_arr]
    · cases set
  | null | bool | num | str => cases h

/-- A second write of a child replaces the first. -/
lemma setChild?_of_setChild? (h : setChild? v s c = some w) :
    setChild? w s d = setChild? v s d := by
  cases v with
  | obj fields =>
    rw [setChild?_obj_eq_ite] at h
    split at h
    · cases h; simp_all [setChild?_obj_eq_ite]
    · cases h
  | arr items =>
    simp only [setChild?_arr_eq_bind, Option.bind_eq_some_iff] at h
    obtain ⟨i, index, set⟩ := h
    split at set
    · cases set; simp_all [setChild?_arr_eq_bind]
    · cases set
  | null | bool | num | str => cases h

/-- A child can be written exactly where one can be read. -/
lemma setChild?_isSome : (setChild? v s d).isSome = (child? v s).isSome := by
  cases v with
  | obj fields => simp [setChild?_obj_eq_ite, child?_obj, lookup_isSome]; split <;> simp_all
  | arr items =>
    simp only [setChild?_arr_eq_bind, child?_arr]
    cases arrayIndex? s with
    | none => rfl
    | some i => by_cases small : i < items.length <;> simp [small]
  | null | bool | num | str => rfl

/-- Writing back the child found changes nothing. -/
lemma setChild?_of_child? (found : child? v s = some c) : setChild? v s c = some v := by
  cases v with
  | obj fields =>
    have present : hasField s fields = true := by rw [← lookup_isSome]; simp_all [child?_obj]
    simp_all [setChild?_obj_eq_ite, child?_obj, setField_of_lookup]
  | arr items =>
    simp only [child?_arr, Option.bind_eq_some_iff] at found
    obtain ⟨i, index, at_i⟩ := found
    obtain ⟨inside, rfl⟩ := List.getElem?_eq_some_iff.mp at_i
    simp [setChild?_arr_eq_bind, index, inside]
  | null | bool | num | str => cases found

lemma child?_index {n : Nat} (small : n < 2 ^ 64) : child? (arr items) (toString n) = items[n]? := by
  simp only [child?_arr, arrayIndex?_toString small, Option.bind_some]

lemma setChild?_index {n : Nat} (small : n < 2 ^ 64) (inside : n < items.length) :
    setChild? (arr items) (toString n) d = some (arr (items.set n d)) := by
  simp only [setChild?_arr_eq_bind, arrayIndex?_toString small, Option.bind_some, inside, ite_true]

lemma setChild?_obj (present : hasField s fields = true) :
    setChild? (obj fields) s d = some (obj (setField s d fields)) := by
  simp [setChild?_obj_eq_ite, present]

/-! One step of a walk along a path. -/

lemma modifyAt_cons {f : Json → Option Json} {rest : List String} :
    modifyAt f (s :: rest) v =
      (child? v s).bind fun c => (modifyAt f rest c).bind fun c' => setChild? v s c' :=
  rfl

lemma getAt?_cons {rest : List String} : getAt? (s :: rest) v = (child? v s).bind (getAt? rest) := rfl

lemma setAt_cons {rest : List String} :
    setAt (s :: rest) d v = (child? v s).bind fun c => (setAt rest d c).bind fun c' => setChild? v s c' :=
  rfl

lemma setAt_singleton : setAt [s] d v = setChild? v s d := by
  have same := setChild?_isSome (v := v) (s := s) (d := d)
  rw [setAt_cons]
  cases hc : child? v s with
  | none => simp_all
  | some c => rfl

end Step

/-! ## Whole paths -/

section Path

variable {f g : Json → Option Json} {p q : List String} {v w x y a b : Json}

lemma modifyAt_append : modifyAt f (p ++ q) v = modifyAt (modifyAt f q) p v := by
  induction p generalizing v with
  | nil => rfl
  | cons s p ih => simp [modifyAt_cons, ih]

lemma setAt_append : setAt (p ++ q) x v = modifyAt (setAt q x) p v :=
  modifyAt_append

lemma getAt?_append : getAt? (p ++ q) v = (getAt? p v).bind (getAt? q) := by
  induction p generalizing v with
  | nil => rfl
  | cons s p ih => simp [getAt?_cons, ih, Option.bind_assoc]

/-- A walk that meets the value `a` changes it by `f a`. -/
lemma modifyAt_of_getAt? (found : getAt? p v = some a) (changed : f a = some b) :
    modifyAt f p v = setAt p b v := by
  induction p generalizing v with
  | nil => cases found; exact changed
  | cons s p ih =>
    simp only [getAt?_cons, Option.bind_eq_some_iff] at found
    obtain ⟨c, hc, found⟩ := found
    simp [modifyAt_cons, setAt_cons, hc, ih found]

/-- A value written at a path reads back. -/
lemma getAt?_setAt (h : setAt p x v = some w) : getAt? p w = some x := by
  induction p generalizing v w with
  | nil => cases h; rfl
  | cons s p ih =>
    simp only [setAt_cons, Option.bind_eq_some_iff] at h
    obtain ⟨c, -, c', written, set⟩ := h
    simp [getAt?_cons, child?_of_setChild? set, ih written]

/-- A second write at a path replaces the first. -/
lemma setAt_setAt (h : setAt p x v = some w) : setAt p y w = setAt p y v := by
  induction p generalizing v w with
  | nil => cases h; rfl
  | cons s p ih =>
    simp only [setAt_cons, Option.bind_eq_some_iff] at h
    obtain ⟨c, hc, c', written, set⟩ := h
    simp [setAt_cons, hc, child?_of_setChild? set, ih written, setChild?_of_setChild? set]

/-- Writing back the value found at a path changes nothing. -/
lemma setAt_of_getAt?_self (found : getAt? p v = some a) : setAt p a v = some v := by
  induction p generalizing v with
  | nil => cases found; rfl
  | cons s p ih =>
    simp only [getAt?_cons, Option.bind_eq_some_iff] at found
    obtain ⟨c, hc, found⟩ := found
    simp [setAt_cons, hc, ih found, setChild?_of_child? hc]

/-- A value can be written wherever one can be read. -/
lemma setAt_of_getAt? (found : getAt? p v = some a) : ∃ w, setAt p x v = some w := by
  induction p generalizing v a with
  | nil => exact ⟨x, rfl⟩
  | cons s p ih =>
    simp only [getAt?_cons, Option.bind_eq_some_iff] at found
    obtain ⟨c, hc, found⟩ := found
    obtain ⟨c', written⟩ := ih found
    have settable : (setChild? v s c').isSome := by simp [setChild?_isSome, hc]
    obtain ⟨w, set⟩ := Option.isSome_iff_exists.mp settable
    exact ⟨w, by simp [setAt_cons, hc, written, set]⟩

end Path

/-! ## Operations at a place -/

section Operations

variable {i : Nat} {doc doc' mid : Json} {op : PatchOp} {ops ops' : List PatchOp}

/-- An operation whose pointer names `p ++ [key]` changes the parent at `p`. -/
lemma applyOp_of_modifyAt {p : List String} {key : String}
    (named : op.path = Pointer.ofSegments (p ++ [key]))
    (changed : modifyAt (applyToParent op key) p doc = some doc') :
    applyOp i doc op = .ok doc' := by
  obtain ⟨first, rest, split⟩ : ∃ first rest, p ++ [key] = first :: rest :=
    List.exists_cons_of_ne_nil (by simp)
  have last : (first :: rest).getLast?.getD "" = key := by rw [← split]; simp
  have init : (first :: rest).dropLast = p := by rw [← split]; simp
  simp only [applyOp, named, Pointer.segments?_ofSegments, split, last, init, changed]

@[simp] lemma applyOp_replace_root (value : Json) :
    applyOp i doc (.replace (Pointer.ofSegments []) value) = .ok value := by
  simp [applyOp, Pointer.segments?_ofSegments, PatchOp.path]

lemma go_nil : applyPatch.go i doc [] = .ok doc := rfl

lemma go_singleton (h : applyOp i doc op = .ok doc') : applyPatch.go i doc [op] = .ok doc' := by
  simp [applyPatch.go, h, bind, Except.bind]

/-- Running a patch is running its first part and then its second. -/
lemma go_append (first : applyPatch.go i doc ops = .ok mid)
    (second : applyPatch.go (i + ops.length) mid ops' = .ok doc') :
    applyPatch.go i doc (ops ++ ops') = .ok doc' := by
  induction ops generalizing i doc with
  | nil => cases first; simpa using second
  | cons op ops ih =>
    simp only [List.cons_append, applyPatch.go, bind, Except.bind] at first ⊢
    cases step : applyOp i doc op with
    | error e => simp [step] at first
    | ok next =>
      simp only [step] at first ⊢
      exact ih first (by simpa [Nat.add_assoc, Nat.add_comm 1] using second)

end Operations

/-! ## Effects on a parent -/

section Parents

variable {path key : String} {value : Json} {fields : List (String × Json)} {items : List Json}

lemma toString_ne_dash (n : Nat) : toString n ≠ "-" := by
  intro h
  have dash : '-' ∈ Nat.toDigits 10 n := by
    rw [← Nat.toList_repr, ← Nat.toString_eq_repr, h]; decide
  exact absurd (Nat.isDigit_of_mem_toDigits (by decide) (by decide) dash) (by decide)

@[simp] lemma applyToParent_add_obj :
    applyToParent (.add path value) key (.obj fields) = some (.obj (setField key value fields)) :=
  rfl

lemma applyToParent_remove_obj (present : hasField key fields) :
    applyToParent (.remove path) key (.obj fields) = some (.obj (eraseField key fields)) := by
  simp [applyToParent, present]

@[simp] lemma applyToParent_replace (parent : Json) :
    applyToParent (.replace path value) key parent = setChild? parent key value := by
  cases parent <;> rfl

/-- Adding at the position one past the last element appends. -/
lemma applyToParent_add_end (small : items.length < 2 ^ 64) :
    applyToParent (.add path value) (toString items.length) (.arr items) =
      some (.arr (items ++ [value])) := by
  have notDash : (toString items.length == "-") = false :=
    beq_eq_false_iff_ne.mpr (toString_ne_dash _)
  simp only [applyToParent, notDash, arrayIndex?_toString small, Bool.false_eq_true, ite_false,
    Nat.le_refl, ite_true, List.insertIdx_length_self]

lemma applyToParent_remove_arr {n : Nat} (inside : n < items.length) (small : n < 2 ^ 64) :
    applyToParent (.remove path) (toString n) (.arr items) = some (.arr (items.eraseIdx n)) := by
  simp only [applyToParent, arrayIndex?_toString small, inside, ite_true]

end Parents

end Json

end Schemata
