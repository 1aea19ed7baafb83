import Mathlib
import Schemata.Proofs.DiffLayout

/-!
# Applying a difference reproduces the target

The main result, `applyPatch_diff`: for well-formed documents `a` and `b`, the patch
`Json.diff a b` applies to `a` without error and leaves `align a b`, the same document as `b`
laid out in `a`'s key order; the patch is empty exactly when `a` is already the same as `b`.

The patch is built by a traversal that mixes three kinds of operation at many depths, and each
must find its place in a document that the operations before it have already changed. The
proof therefore never follows a document through the whole patch. It states what a run of
operations does *at one place* (`RewritesAt p ops a x`: where the value at `p` is `a`, the
operations write `x` there and leave everything else), and builds the patch's effect from
four ways of composing such facts:

* `RewritesAt.append`: two runs at one place, one after the other;
* `RewritesAt.child`: a run at a child is a run at its parent;
* `RewritesAt.parentOp`: one operation acts on the parent of its pointer's last segment;
* `RewritesAt.replace`: a replacement at any place, the whole document included.

One invariant per function of the traversal (`DiffRuns`, `ElementsRun`, `MembersRun`) then
follows the traversal's own recursion, `Json.diffAt.mutual_induct`. Object members are
visited last to first, so when a member is handled, the members after it are already in
their final form and the ones before it untouched: the invariants carry that prefix as
`pre`. Removals from an array run from its end, so the positions still to be visited never
move.
-/

namespace Schemata

namespace Json

/-! ## Runs of operations at one place -/

/-- The operations `ops` turn `doc` into `doc'`, wherever in a patch they stand. -/
def Runs (doc : Json) (ops : List PatchOp) (doc' : Json) : Prop :=
  ∀ i, applyPatch.go i doc ops = .ok doc'

lemma Runs.append {doc mid doc' : Json} {ops ops' : List PatchOp} (first : Runs doc ops mid)
    (second : Runs mid ops' doc') : Runs doc (ops ++ ops') doc' :=
  fun i => go_append (first i) (second _)

/-- Where the value at `p` is `a`, the operations `ops` write `x` there and leave the rest of
the document as it was. -/
def RewritesAt (p : List String) (ops : List PatchOp) (a x : Json) : Prop :=
  ∀ doc, getAt? p doc = some a → ∃ doc', setAt p x doc = some doc' ∧ Runs doc ops doc'

namespace RewritesAt

variable {p : List String} {ops ops' : List PatchOp} {a x y : Json}

lemma nil : RewritesAt p [] a a :=
  fun doc found => ⟨doc, setAt_of_getAt?_self found, fun _ => rfl⟩

lemma append (first : RewritesAt p ops a x) (second : RewritesAt p ops' x y) :
    RewritesAt p (ops ++ ops') a y := by
  intro doc found
  obtain ⟨mid, written, run⟩ := first doc found
  obtain ⟨doc', written', run'⟩ := second mid (getAt?_setAt written)
  exact ⟨doc', by rw [← setAt_setAt written, written'], run.append run'⟩

/-- Operations that rewrite a child rewrite its parent. -/
lemma child {key : String} {parent parent' : Json} (inner : RewritesAt (p ++ [key]) ops a x)
    (found : child? parent key = some a) (written : setChild? parent key x = some parent') :
    RewritesAt p ops parent parent' := by
  intro doc atParent
  have atChild : getAt? (p ++ [key]) doc = some a := by
    simp [getAt?_append, atParent, getAt?, found]
  obtain ⟨doc', set, run⟩ := inner doc atChild
  have same : setAt p parent' doc = setAt (p ++ [key]) x doc := by
    rw [setAt_append, modifyAt_of_getAt? atParent (by rw [setAt_singleton]; exact written)]
  exact ⟨doc', same ▸ set, run⟩

/-- An operation whose pointer names `p ++ [key]` acts on the parent at `p`. -/
lemma parentOp {op : PatchOp} {key : String} {parent parent' : Json}
    (named : op.path = Pointer.ofSegments (p ++ [key]))
    (effect : applyToParent op key parent = some parent') : RewritesAt p [op] parent parent' := by
  intro doc found
  obtain ⟨doc', set⟩ := setAt_of_getAt? (x := parent') found
  refine ⟨doc', set, fun i => go_singleton (applyOp_of_modifyAt named ?_)⟩
  rw [modifyAt_of_getAt? found effect, set]

/-- A replacement writes its value at the place its pointer names, the whole document
included. -/
lemma replace (x a : Json) : RewritesAt p [.replace (Pointer.ofSegments p) x] a x := by
  obtain rfl | ⟨q, key, rfl⟩ := p.eq_nil_or_concat
  · intro doc found
    cases found
    exact ⟨x, rfl, fun i => go_singleton (applyOp_replace_root x)⟩
  · rw [List.concat_eq_append]
    intro doc found
    obtain ⟨doc', set⟩ := setAt_of_getAt? (x := x) found
    refine ⟨doc', set, fun i => go_singleton (applyOp_of_modifyAt rfl ?_)⟩
    -- replacing at `q ++ [key]` is writing the child `key` of the parent at `q`
    rw [← set, setAt_append]
    congr 1
    funext parent
    rw [applyToParent_replace, setAt_singleton]

end RewritesAt

/-! ## Additions at the end of a container -/

/-- In fields with distinct keys, a key is not among the keys of the fields before it. -/
lemma not_mem_keys_of_nodup {pre rest : List (String × Json)} {k : String} {v : Json}
    (distinct : (keys (pre ++ (k, v) :: rest)).Nodup) : k ∉ keys pre := by
  intro h
  simp only [keys, List.map_append, List.map_cons, List.nodup_append] at distinct
  exact distinct.2.2 k h k (by simp) rfl

section Additions

variable {p : List String}

/-- Adding fields that are new to an object appends them, in order. -/
lemma addFields_rewrites {fields extra : List (String × Json)}
    (distinct : (keys (fields ++ extra)).Nodup) :
    RewritesAt p (extra.map fun (k, v) => .add (Pointer.ofSegments p ++ "/" ++ Pointer.escapeSegment k) v)
      (obj fields) (obj (fields ++ extra)) := by
  induction extra generalizing fields with
  | nil => simpa using RewritesAt.nil
  | cons kv extra ih =>
    obtain ⟨k, v⟩ := kv
    have fresh := not_mem_keys_of_nodup distinct
    have step : RewritesAt p [.add (Pointer.ofSegments p ++ "/" ++ Pointer.escapeSegment k) v]
        (obj fields) (obj (fields ++ [(k, v)])) :=
      RewritesAt.parentOp (Pointer.ofSegments_concat p k) (by simp [setField_of_not_mem fresh])
    have later : (keys ((fields ++ [(k, v)]) ++ extra)).Nodup := by simpa using distinct
    simpa using step.append (ih later)

/-- Adding elements at the positions one past the end appends them, in order. -/
lemma addElements_rewrites {items more : List Json} {n : Nat} (start : items.length = n)
    (small : n + more.length ≤ 2 ^ 64) :
    RewritesAt p ((more.zipIdx n).map fun (v, i) => .add (Pointer.ofSegments p ++ "/" ++ toString i) v)
      (arr items) (arr (items ++ more)) := by
  induction more generalizing items n with
  | nil => simpa using RewritesAt.nil
  | cons w more ih =>
    subst start
    have step : RewritesAt p [.add (Pointer.ofSegments p ++ "/" ++ toString items.length) w]
        (arr items) (arr (items ++ [w])) :=
      RewritesAt.parentOp (Pointer.ofSegments_concat_index p items.length)
        (applyToParent_add_end (by simp at small; omega))
    have longer : (items ++ [w]).length = items.length + 1 := by simp
    simpa using step.append (ih longer (by simp at small ⊢; omega))

/-- The positions of a tail are the positions in the whole list, from where it starts. -/
lemma drop_zipIdx (l : List Json) (n m : Nat) : (l.zipIdx n).drop m = (l.drop m).zipIdx (n + m) := by
  induction l generalizing n m with
  | nil => simp
  | cons x l ih =>
    cases m with
    | zero => simp
    | succ m => simp [ih, Nat.add_assoc, Nat.add_comm 1 m]

end Additions

/-! ## The traversal, one invariant per function -/

/-- The operations of `diffAt path a b`, at the place `p` that `path` names, turn `a` into
`align a b`. -/
def DiffRuns (path : String) (a b : Json) : Prop :=
  ∀ p, path = Pointer.ofSegments p → a.wellFormed = true → b.wellFormed = true →
    RewritesAt p (diffAt path a b) a (align a b)

/-- The operations for the old elements from position `i` on, at an array whose first `i`
elements are `pre`. -/
def ElementsRun (path : String) (i : Nat) (old new : List Json) : Prop :=
  ∀ p, path = Pointer.ofSegments p → ∀ pre : List Json, pre.length = i →
    (pre ++ old).length < 2 ^ 64 → (∀ x ∈ old, x.wellFormed = true) →
    (∀ y ∈ new, y.wellFormed = true) →
    RewritesAt p (diffElements path i old new) (arr (pre ++ old))
      (arr (pre ++ alignElements old (new.drop i)))

/-- The operations for the old members `old`, at an object whose members before them are
`pre`. -/
def MembersRun (path : String) (old new : List (String × Json)) : Prop :=
  ∀ p, path = Pointer.ofSegments p → ∀ pre : List (String × Json), (keys (pre ++ old)).Nodup →
    (∀ kv ∈ old, kv.2.wellFormed = true) → (∀ kv ∈ new, kv.2.wellFormed = true) →
    RewritesAt p (diffMembers path old new) (obj (pre ++ old)) (obj (pre ++ alignMembers old new))

/-- The fields of an aligned object have distinct keys. -/
lemma keys_align_fields_nodup {old new : List (String × Json)} (distinctOld : (keys old).Nodup)
    (distinctNew : (keys new).Nodup) :
    (keys (alignMembers old new ++ new.filter fun (k, _) => !hasField k old)).Nodup := by
  have added : (keys (new.filter fun (k, _) => !hasField k old)).Nodup :=
    (List.filter_sublist.map Prod.fst).nodup distinctNew
  rw [keys, List.map_append, List.nodup_append]
  refine ⟨by rw [← keys, keys_alignMembers]; exact distinctOld.filter _, added, ?_⟩
  intro k kept k' new' same
  subst same
  rw [← keys, keys_alignMembers, List.mem_filter] at kept
  obtain ⟨kv, hkv, rfl⟩ := List.mem_map.mp new'
  have notOld := (List.mem_filter.mp hkv).2
  simp [hasField_iff_mem_keys.mpr kept.1] at notOld

lemma diffRuns_obj {path : String} {old new : List (String × Json)}
    (members : MembersRun path old new) : DiffRuns path (obj old) (obj new) := by
  intro p hp ha hb
  rw [wellFormed_obj] at ha hb
  have kept := members p hp [] ha.1 ha.2 hb.2
  subst hp
  simp only [List.nil_append] at kept
  simp only [diffAt, align]
  exact kept.append (addFields_rewrites (keys_align_fields_nodup ha.1 hb.1))

lemma diffRuns_arr {path : String} {old new : List Json}
    (elements : ElementsRun path 0 old new) : DiffRuns path (arr old) (arr new) := by
  intro p hp ha hb
  rw [wellFormed_arr] at ha hb
  have kept := elements p hp [] rfl (by simpa using ha.1) ha.2 hb.2
  subst hp
  simp only [List.nil_append, List.drop_zero] at kept
  simp only [diffAt, align, drop_zipIdx, Nat.zero_add]
  refine kept.append ?_
  by_cases short : new.length ≤ old.length
  · simpa [List.drop_eq_nil_of_le short] using RewritesAt.nil
  · -- the target is longer: its tail is added after the aligned positions
    have start : (alignElements old new).length = old.length := by
      rw [length_alignElements]; omega
    exact addElements_rewrites start (by simp; omega)

lemma diffRuns_of_not_container {path : String} {a b : Json}
    (objects : ∀ old new, a = obj old → b = obj new → False)
    (arrays : ∀ old new, a = arr old → b = arr new → False) : DiffRuns path a b := by
  intro p hp _ _
  subst hp
  rw [diffAt_of_not_container objects arrays, align_of_not_container objects arrays]
  split
  · exact RewritesAt.nil
  · exact RewritesAt.replace b a

lemma elementsRun_nil {path : String} {i : Nat} {new : List Json} : ElementsRun path i [] new := by
  intro p _ pre _ _ _ _
  simpa [diffElements, alignElements] using RewritesAt.nil

lemma elementsRun_cons {path : String} {i : Nat} {v : Json} {rest new : List Json}
    (later : ElementsRun path (i + 1) rest new)
    (child : ∀ w, DiffRuns (path ++ "/" ++ toString i) v w) :
    ElementsRun path i (v :: rest) new := by
  intro p hp pre length small hold hnew
  have first := later p hp (pre ++ [v]) (by simp [length]) (by simpa using small)
    (fun x h => hold x (by simp [h])) hnew
  subst hp
  simp only [List.append_assoc, List.singleton_append] at first
  have index : i < 2 ^ 64 := by simp at small; omega
  simp only [diffElements]
  cases found : new[i]? with
  | none =>
    -- no position `i` in the target: `v` goes, and nothing is left after it
    have beyond : new.length ≤ i := List.getElem?_eq_none_iff.mp found
    rw [List.drop_eq_nil_of_le (by omega : new.length ≤ i + 1), alignElements_nil_right] at first
    rw [List.drop_eq_nil_of_le beyond, alignElements_nil_right]
    refine first.append (RewritesAt.parentOp (Pointer.ofSegments_concat_index p i) ?_)
    rw [applyToParent_remove_arr (by simp [length]) index, ← length,
      List.eraseIdx_append_of_length_le (Nat.le_refl _)]
    simp
  | some w =>
    -- position `i` is in both: the difference of `v` and `w` runs at that position
    have split : new.drop i = w :: new.drop (i + 1) := by
      obtain ⟨inside, rfl⟩ := List.getElem?_eq_some_iff.mp found
      exact List.drop_eq_getElem_cons inside
    have inner := child w (p ++ [toString i]) (Pointer.ofSegments_concat_index p i)
      (hold v (by simp)) (hnew w (List.mem_of_getElem? found))
    rw [split]
    refine first.append (RewritesAt.child inner ?_ ?_)
    · rw [child?_index index]
      simp [← length]
    · rw [setChild?_index index (by simp [length])]
      simp [alignElements, ← length]

lemma membersRun_nil {path : String} {new : List (String × Json)} : MembersRun path [] new := by
  intro p _ pre _ _ _
  simpa [diffMembers, alignMembers] using RewritesAt.nil

lemma membersRun_cons {path k : String} {v : Json} {rest new : List (String × Json)}
    (later : MembersRun path rest new)
    (child : ∀ w, DiffRuns (path ++ "/" ++ Pointer.escapeSegment k) v w) :
    MembersRun path ((k, v) :: rest) new := by
  intro p hp pre distinct hold hnew
  have fresh := not_mem_keys_of_nodup distinct
  have first := later p hp (pre ++ [(k, v)]) (by simpa using distinct)
    (fun kv h => hold kv (by simp [h])) hnew
  subst hp
  simp only [List.append_assoc, List.singleton_append] at first
  simp only [diffMembers]
  cases found : lookup k new with
  | none =>
    -- the target has no key `k`: the member goes
    refine first.append (RewritesAt.parentOp (Pointer.ofSegments_concat p k) ?_)
    rw [applyToParent_remove_obj hasField_append_cons, eraseField_append_cons fresh]
    simp [alignMembers, found]
  | some w =>
    -- the key is in both: the difference of the values runs under it
    have inner := child w (p ++ [k]) (Pointer.ofSegments_concat p k)
      (hold (k, v) (by simp)) (hnew (k, w) (mem_of_lookup found))
    refine first.append (RewritesAt.child inner ?_ ?_)
    · simp [child?, lookup_append_cons fresh]
    · rw [setChild?_obj hasField_append_cons, setField_append_cons fresh]
      simp [alignMembers, found]

/-- Every step of the traversal rewrites the place it visits as `align` says. -/
theorem diffAt_rewrites (path : String) (a b : Json) : DiffRuns path a b :=
  (diffAt.mutual_induct DiffRuns ElementsRun MembersRun
    (fun _ _ _ members => diffRuns_obj members)
    (fun _ _ _ elements => diffRuns_arr elements)
    (fun _ _ _ objects arrays _ => diffRuns_of_not_container objects arrays)
    (fun _ _ _ objects arrays _ => diffRuns_of_not_container objects arrays)
    (fun _ _ _ => elementsRun_nil)
    (fun _ _ _ _ _ later child => elementsRun_cons later child)
    (fun _ _ => membersRun_nil)
    (fun _ _ _ _ _ later child => membersRun_cons later child)).1 path a b

/-! ## Difference then patch -/

/-- The difference applies to the document it starts from and gives the aligned target. -/
lemma applyPatch_diff_eq_align {a b : Json} (ha : a.wellFormed = true) (hb : b.wellFormed = true) :
    applyPatch a (diff a b) = .ok (align a b) := by
  obtain ⟨doc', written, run⟩ := diffAt_rewrites "" a b [] rfl ha hb a rfl
  cases written
  exact run 0

/-- **Difference then patch.** For well-formed documents `a` and `b`, the difference applies
to `a` without error and leaves `align a b`: the same document as `b`, in which the keys that
`a` and `b` share keep their places in `a` and `b`'s other keys follow in `b`'s order. The
difference is empty exactly when `a` is already the same as `b`. -/
theorem applyPatch_diff (a b : Json) (ha : a.wellFormed = true) (hb : b.wellFormed = true) :
    applyPatch a (diff a b) = .ok (align a b) ∧ (align a b).same b = true ∧
      (diff a b = [] ↔ a.same b = true) := by
  have applies := applyPatch_diff_eq_align ha hb
  refine ⟨applies, same_align ha hb, fun empty => ?_, diffAt_eq_nil_of_same ha hb⟩
  -- an empty difference leaves `a` as it is, so `a` is the aligned target
  have stays : align a b = a := by
    rw [empty] at applies
    simpa [applyPatch, applyPatch.go] using applies.symm
  simpa [stays] using same_align ha hb

/-- The law at two documents with keys holding `/` and `~`, an array that shrinks and one that
grows, and a value that changes kind. -/
theorem applyPatch_diff_sample :
    (obj [("a/b", .arr [.null, .bool true]), ("~1", .num (.nat 1)), ("x", .arr [])]).wellFormed
        = true ∧
      (obj [("~1", .obj []), ("", .null), ("a/b", .arr [.null]), ("x", .arr [.str "y"])]).wellFormed
        = true ∧
      applyPatch (obj [("a/b", .arr [.null, .bool true]), ("~1", .num (.nat 1)), ("x", .arr [])])
          (diff (obj [("a/b", .arr [.null, .bool true]), ("~1", .num (.nat 1)), ("x", .arr [])])
            (obj [("~1", .obj []), ("", .null), ("a/b", .arr [.null]), ("x", .arr [.str "y"])])) =
        .ok (align (obj [("a/b", .arr [.null, .bool true]), ("~1", .num (.nat 1)), ("x", .arr [])])
          (obj [("~1", .obj []), ("", .null), ("a/b", .arr [.null]), ("x", .arr [.str "y"])])) :=
  ⟨by decide +kernel, by decide +kernel,
    (applyPatch_diff _ _ (by decide +kernel) (by decide +kernel)).1⟩

end Json

end Schemata
