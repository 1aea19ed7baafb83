import Mathlib
import Schemata.Json.Diff
import Schemata.Proofs.JsonEquality

/-!
# The layout a difference leaves behind

`Json.diff a b` does not rebuild `b` from nothing: it edits `a` in place. The document it
leaves is `Json.align a b`, which is `b`'s content in `a`'s layout:

* in an object, the keys `a` and `b` share keep their places in `a`, and the keys only `b`
  has follow, in `b`'s order;
* in an array, the positions both have are aligned one by one, and `b`'s further elements
  follow;
* a value that is the same as `a`'s (`Json.same`) stays as `a` has it, and any other value is
  `b`'s.

Two facts about this layout are proved here. It is the same document as `b`
(`same_align`), whatever the order of `b`'s keys; and when `a` is already the same as `b`,
the difference is empty (`diffAt_eq_nil_of_same`).
-/

namespace Schemata

namespace Json

mutual
/-- `b`'s content laid out as the difference from `a` leaves it on `a`. -/
def align : Json → Json → Json
  | .obj old, .obj new => .obj (alignMembers old new ++ new.filter fun (k, _) => !hasField k old)
  | .arr old, .arr new => .arr (alignElements old new ++ new.drop old.length)
  | a, b => if same a b then a else b

/-- The members of the old object that the new one keeps, aligned, in the old order. -/
def alignMembers : List (String × Json) → List (String × Json) → List (String × Json)
  | [], _ => []
  | (k, v) :: rest, new =>
    match lookup k new with
    | some w => (k, align v w) :: alignMembers rest new
    | none => alignMembers rest new

/-- The elements at the positions both arrays have, aligned. -/
def alignElements : List Json → List Json → List Json
  | v :: rest, w :: more => align v w :: alignElements rest more
  | _, _ => []
end

/-- Where not both documents are objects and not both are arrays, the difference replaces
the whole value, or leaves a value that is the same. -/
lemma align_of_not_container {a b : Json}
    (objects : ∀ old new, a = obj old → b = obj new → False)
    (arrays : ∀ old new, a = arr old → b = arr new → False) :
    align a b = if same a b then a else b := by
  cases a <;> cases b <;> simp_all [align]

lemma diffAt_of_not_container {path : String} {a b : Json}
    (objects : ∀ old new, a = obj old → b = obj new → False)
    (arrays : ∀ old new, a = arr old → b = arr new → False) :
    diffAt path a b = if same a b then [] else [.replace path b] := by
  cases a <;> cases b <;> simp_all [diffAt]

@[simp] lemma alignElements_nil_right (old : List Json) : alignElements old [] = [] := by
  cases old <;> simp [alignElements]

lemma length_alignElements (old new : List Json) :
    (alignElements old new).length = min old.length new.length := by
  induction old generalizing new with
  | nil => simp [alignElements]
  | cons v rest ih =>
    cases new with
    | nil => simp
    | cons w more => simp [alignElements, ih, Nat.succ_min_succ]

/-- The members kept are those whose key the new object has, in the old order. -/
lemma keys_alignMembers (old new : List (String × Json)) :
    keys (alignMembers old new) = (keys old).filter fun k => hasField k new := by
  induction old with
  | nil => simp [alignMembers, keys]
  | cons kv rest ih =>
    obtain ⟨k, v⟩ := kv
    have present := @lookup_isSome k new
    simp only [keys] at ih ⊢
    cases found : lookup k new with
    | none =>
      simp only [found, Option.isSome_none] at present
      simp [alignMembers, found, ← present, ih]
    | some w =>
      simp only [found, Option.isSome_some] at present
      simp [alignMembers, found, ← present, ih]

/-! ## The layout is the target -/

/-- Two objects with distinct keys share as many keys from either side. -/
lemma length_shared_keys {old new : List (String × Json)}
    (distinctOld : (keys old).Nodup) (distinctNew : (keys new).Nodup) :
    ((keys old).filter fun k => hasField k new).length =
      (new.filter fun kv => hasField kv.1 old).length := by
  have shared : List.Perm ((keys old).filter fun k => hasField k new)
      ((keys new).filter fun k => hasField k old) := by
    rw [List.perm_ext_iff_of_nodup (distinctOld.filter _) (distinctNew.filter _)]
    intro k
    simp only [List.mem_filter, hasField_iff_mem_keys]
    exact ⟨fun h => ⟨h.2, h.1⟩, fun h => ⟨h.2, h.1⟩⟩
  rw [shared.length_eq, keys, List.filter_map, List.length_map]
  rfl

/-- The aligned object has exactly as many fields as the new one. -/
lemma length_align_fields {old new : List (String × Json)}
    (distinctOld : (keys old).Nodup) (distinctNew : (keys new).Nodup) :
    (alignMembers old new ++ new.filter fun (k, _) => !hasField k old).length = new.length := by
  have kept : (alignMembers old new).length = ((keys old).filter fun k => hasField k new).length := by
    rw [← keys_alignMembers, keys, List.length_map]
  rw [List.length_append, kept, length_shared_keys distinctOld distinctNew,
    List.length_eq_length_filter_add (l := new) (fun kv => hasField kv.1 old)]

/-- **The layout is the target.** The document a difference leaves is the same as the
target, whatever the order of the target's keys. -/
theorem same_align {a b : Json} (ha : a.wellFormed = true) (hb : b.wellFormed = true) :
    (align a b).same b = true := by
  apply (align.mutual_induct
    (fun a b => a.wellFormed = true → b.wellFormed = true → (align a b).same b = true)
    (fun old new => (∀ x ∈ old, x.wellFormed = true) →
      (∀ y ∈ new, y.wellFormed = true) →
      List.Forall₂ (fun x y => x.same y = true) (alignElements old new) (new.take old.length))
    (fun old new => (∀ kv ∈ old, kv.2.wellFormed = true) →
      (∀ kv ∈ new, kv.2.wellFormed = true) →
      ∀ kv ∈ alignMembers old new, ∃ w, lookup kv.1 new = some w ∧ kv.2.same w = true)
    _ _ _ _ _ _ _ _ _).1 a b ha hb
  -- two objects: the kept members are found in the target, the added ones are its own
  · intro old new members ha hb
    rw [wellFormed_obj] at ha hb
    simp only [align]
    refine same_obj_iff.mpr ⟨length_align_fields ha.1 hb.1, fun kv hkv => ?_⟩
    rcases List.mem_append.mp hkv with kept | added
    · exact members ha.2 hb.2 kv kept
    · have inNew := (List.mem_filter.mp added).1
      exact ⟨kv.2, lookup_of_mem hb.1 inNew, same_self (hb.2 kv inNew)⟩
  -- two arrays: aligned positions, then the target's own tail
  · intro old new elements ha hb
    rw [wellFormed_arr] at ha hb
    simp only [align]
    have tail : List.Forall₂ (fun x y => x.same y = true) (new.drop old.length)
        (new.drop old.length) :=
      List.forall₂_same.mpr fun y hy => same_self (hb.2 y (List.mem_of_mem_drop hy))
    rw [same_arr_iff]
    simpa only [List.take_append_drop] using List.rel_append (elements ha.2 hb.2) tail
  -- anything else: `a` when it is the same as `b`, else `b` itself
  · intro a b objects arrays same _ _
    rw [align_of_not_container objects arrays, if_pos same]
    exact same
  · intro a b objects arrays different _ hb
    rw [align_of_not_container objects arrays, if_neg different]
    exact same_self hb
  · intro v rest w more child elements hold hnew
    simp only [alignElements, List.length_cons, List.take_succ_cons]
    exact .cons (child (hold v (by simp)) (hnew w (by simp)))
      (elements (fun x h => hold x (by simp [h])) (fun y h => hnew y (by simp [h])))
  · intro old new notBoth _ _
    cases old with
    | nil => simp [alignElements]
    | cons v rest =>
      cases new with
      | nil => simp
      | cons w more => exact absurd rfl (notBoth v rest w more rfl)
  · intro new _ _ kv hkv
    simp [alignMembers] at hkv
  · intro k v rest new w found child members hold hnew kv hkv
    simp only [alignMembers, found, List.mem_cons] at hkv
    have hv : v.wellFormed = true := hold (k, v) (by simp)
    have hw : w.wellFormed = true := hnew (k, w) (mem_of_lookup found)
    rcases hkv with rfl | later
    · exact ⟨w, found, child hv hw⟩
    · exact members (fun kv h => hold kv (by simp [h])) hnew kv later
  · intro k v rest new missing members hold hnew kv hkv
    simp only [alignMembers, missing] at hkv
    exact members (fun kv h => hold kv (by simp [h])) hnew kv hkv

/-! ## A document differs from nothing the same as it -/

/-- An object that is the same as one with distinct keys has no key that the other lacks. -/
lemma keys_subset_of_same_obj {old new : List (String × Json)} (distinctOld : (keys old).Nodup)
    (same : (obj old).same (obj new) = true) : keys new ⊆ keys old := by
  obtain ⟨length, found⟩ := same_obj_iff.mp same
  have covered : keys old ⊆ keys new := by
    intro k hk
    obtain ⟨kv, hkv, rfl⟩ := List.mem_map.mp hk
    obtain ⟨w, hw, -⟩ := found kv hkv
    exact lookup_isSome_iff.mp (by simp [hw])
  -- as many keys on both sides, none of them repeated on the old one
  exact ((List.subperm_of_subset distinctOld covered).perm_of_length_le
    (by simp [keys, length])).symm.subset

/-- Where the two documents are the same, the difference is empty. -/
theorem diffAt_eq_nil_of_same {path : String} {a b : Json} (ha : a.wellFormed = true)
    (hb : b.wellFormed = true) (same : a.same b = true) : diffAt path a b = [] := by
  apply (diffAt.mutual_induct
    (fun path a b => a.wellFormed = true → b.wellFormed = true → a.same b = true →
      diffAt path a b = [])
    (fun path i old new => (∀ x ∈ old, x.wellFormed = true) →
      (∀ y ∈ new, y.wellFormed = true) →
      List.Forall₂ (fun x y => x.same y = true) old (new.drop i) → diffElements path i old new = [])
    (fun path old new => (∀ kv ∈ old, kv.2.wellFormed = true) →
      (∀ kv ∈ new, kv.2.wellFormed = true) →
      (∀ kv ∈ old, ∃ w, lookup kv.1 new = some w ∧ kv.2.same w = true) →
      diffMembers path old new = [])
    _ _ _ _ _ _ _ _).1 path a b ha hb same
  -- two objects: no member differs, and the new object has no key of its own
  · intro path old new members ha hb same
    rw [wellFormed_obj] at ha hb
    have back := keys_subset_of_same_obj ha.1 same
    have noneAdded : (new.filter fun (k, _) => !hasField k old) = [] := by
      rw [List.filter_eq_nil_iff]
      intro kv hkv
      simpa [hasField_iff_mem_keys] using back (List.mem_map_of_mem hkv)
    simp [diffAt, members ha.2 hb.2 (same_obj_iff.mp same).2, noneAdded]
  -- two arrays: no element differs, and the new array is no longer
  · intro path old new elements ha hb same
    rw [wellFormed_arr] at ha hb
    have pairs := same_arr_iff.mp same
    simp [diffAt, elements ha.2 hb.2 pairs, pairs.length_eq]
  · intro path a b objects arrays _ _ _ same
    rw [diffAt_of_not_container objects arrays, if_pos same]
  · intro path a b _ _ different _ _ same
    exact absurd same different
  · intro path i new _ _ _
    simp [diffElements]
  · intro path i v rest new _ elements child hold hnew pairs
    obtain ⟨w, more, split⟩ : ∃ w more, new.drop i = w :: more := by
      cases h : new.drop i with
      | nil => rw [h] at pairs; cases pairs
      | cons w more => exact ⟨w, more, rfl⟩
    rw [split] at pairs
    obtain _ | ⟨first, others⟩ := pairs
    have at_i : new[i]? = some w := by
      rw [← List.head?_drop, split]; rfl
    have tail : new.drop (i + 1) = more := by
      rw [← List.drop_drop, split]; rfl
    have hv : v.wellFormed = true := hold v (by simp)
    have hw : w.wellFormed = true := by
      have inDrop : w ∈ new.drop i := by rw [split]; simp
      exact hnew w (List.mem_of_mem_drop inDrop)
    have same : diffAt (path ++ "/" ++ toString i) v w = [] := child w hv hw first
    simp only [diffElements, at_i, same, List.append_nil]
    exact elements (fun x h => hold x (by simp [h])) hnew (tail ▸ others)
  · intro path new _ _ _
    simp [diffMembers]
  · intro path k v rest new _ members child hold hnew found
    obtain ⟨w, hw, first⟩ := found (k, v) (by simp)
    have hv : v.wellFormed = true := hold (k, v) (by simp)
    have hwf : w.wellFormed = true := hnew (k, w) (mem_of_lookup hw)
    have same : diffAt (path ++ "/" ++ Pointer.escapeSegment k) v w = [] := child w hv hwf first
    simp only [diffMembers, hw, same, List.append_nil]
    exact members (fun kv h => hold kv (by simp [h])) hnew (fun kv h => found kv (by simp [h]))

end Json

end Schemata
