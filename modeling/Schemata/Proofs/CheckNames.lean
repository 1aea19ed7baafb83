import Mathlib
import Schemata.Rails.Build

/-!
# Generated check constraint names are fresh

A check constraint of `schema.rb` given without a `name:` option, inside a `create_table`
block or by `add_check_constraint`, is stored under `checkName t`: `CHECK_{table}`, or, when
the table already holds a constraint of that name, `CHECK_{table}_n` for the least `n ≥ 2`
that is free. The search is written over the `size + 1` candidates `n = 2, ..., size + 2`
and falls back to the base name; the fallback is never taken.

Main statement (`checkName_fresh`): the name is not a key of the table's constraints, it is
the base name or the first free numbered name with `n ≤ size + 1`, and storing the check under
it appends an entry and leaves every stored constraint where and as it was.

The bound is a pigeonhole (`exists_free_numbered`): the base name and the numbered names
`2, ..., size + 1` are `size + 1` distinct names, and a map of `size` entries holds at most
`size` of them.
-/

namespace Schemata

namespace NameMap

variable {α : Type}

lemma contains_iff_mem_keys {m : NameMap α} {k : String} : m.contains k = true ↔ k ∈ m.keys := by
  simp [contains, keys]

/-- Inserting a name that is not stored appends it. -/
lemma insertEntries_of_any_eq_false {k : String} (v : α) :
    ∀ es : List (String × α), es.any (·.1 == k) = false → insertEntries k v es = es ++ [(k, v)]
  | [], _ => rfl
  | e :: rest, fresh => by
    simp only [List.any_cons, Bool.or_eq_false_iff] at fresh
    simp only [insertEntries, fresh.1, Bool.false_eq_true, if_false,
      insertEntries_of_any_eq_false v rest fresh.2, List.cons_append]

lemma insert_of_contains_eq_false {m : NameMap α} {k : String} (v : α)
    (fresh : m.contains k = false) : (m.insert k v).entries = m.entries ++ [(k, v)] :=
  insertEntries_of_any_eq_false v m.entries fresh

/-- **Pigeonhole.** A map that holds `base` leaves one of the `size` names
`base_2, ..., base_{size + 1}` free. -/
lemma exists_free_numbered (m : NameMap α) {base : String} (held : m.contains base = true) :
    ∃ n < m.size, m.contains (base ++ "_" ++ toString (n + 2)) = false := by
  by_contra all
  simp only [not_exists, not_and, Bool.not_eq_false] at all
  let numbered := (List.range m.size).map fun n => base ++ "_" ++ toString (n + 2)
  -- the numbered names differ from one another, and each is longer than the base name
  have distinct : (base :: numbered).Nodup := by
    refine List.nodup_cons.mpr ⟨?_, List.Nodup.map (fun a b h => ?_) List.nodup_range⟩
    · simp only [numbered, List.mem_map, List.mem_range, not_exists, not_and]
      intro n _ h
      have := congrArg String.length h
      simp only [String.length_append] at this
      have : 0 < "_".length := by decide
      omega
    · have := Nat.repr_inj.mp ((String.append_right_inj _).mp h)
      omega
  have stored : base :: numbered ⊆ m.keys := by
    intro k hk
    rcases List.mem_cons.mp hk with rfl | hk
    · exact contains_iff_mem_keys.mp held
    · obtain ⟨n, hn, rfl⟩ := List.mem_map.mp hk
      exact contains_iff_mem_keys.mp (all n (List.mem_range.mp hn))
  have := distinct.length_le_of_subset stored
  simp [numbered, keys, size] at this

end NameMap

namespace Rails

variable (t : Table)

/-- **The name is fresh, and the least free one.** An unnamed check constraint is stored
under `CHECK_{table}` when that is free, and otherwise under `CHECK_{table}_n` for the least
free `n ≥ 2`, which is at most the number of constraints plus one. Storing it there appends
it to the table's constraints. -/
theorem checkName_fresh :
    t.constraints.contains (checkName t) = false ∧
    (checkName t = "CHECK_" ++ t.name ∨
      ∃ n, 2 ≤ n ∧ n ≤ t.constraints.size + 1 ∧
        checkName t = "CHECK_" ++ t.name ++ "_" ++ toString n ∧
        t.constraints.contains ("CHECK_" ++ t.name) = true ∧
        ∀ m, 2 ≤ m → m < n → t.constraints.contains ("CHECK_" ++ t.name ++ "_" ++ toString m)) ∧
    ∀ detail, (t.addConstraint (.check (checkName t) detail)).constraints.entries =
      t.constraints.entries ++ [(checkName t, .check (checkName t) detail)] := by
  suffices named : t.constraints.contains (checkName t) = false ∧ _ from
    ⟨named.1, named.2, fun detail => NameMap.insert_of_contains_eq_false _ named.1⟩
  unfold checkName
  dsimp only
  cases held : t.constraints.contains ("CHECK_" ++ t.name)
  · exact ⟨held, .inl rfl⟩
  simp only [Bool.not_true, Bool.false_eq_true, if_false]
  generalize candidatesDef : (List.range (t.constraints.size + 1)).map
    (fun n => "CHECK_" ++ t.name ++ "_" ++ toString (n + 2)) = candidates
  -- a free candidate exists, so the search finds the first one
  obtain ⟨k, hk, free⟩ := NameMap.exists_free_numbered t.constraints held
  have found : (candidates.find? (!t.constraints.contains ·)).isSome := by
    rw [List.find?_isSome]
    refine ⟨_, ?_, by simpa using free⟩
    rw [← candidatesDef]
    exact List.mem_map.mpr ⟨k, List.mem_range.mpr (by omega), rfl⟩
  obtain ⟨name, hname⟩ := Option.isSome_iff_exists.mp found
  obtain ⟨nameFree, before, after, split, beforeHeld⟩ := List.find?_eq_some_iff_append.mp hname
  rw [hname, Option.getD_some]
  -- the first free candidate stands at position `before.length`, at or before `k`
  have position : before.length ≤ k := by
    by_contra later
    have : candidates[k]? = some ("CHECK_" ++ t.name ++ "_" ++ toString (k + 2)) := by
      rw [← candidatesDef, List.getElem?_map, List.getElem?_range (by omega), Option.map_some]
    rw [split, List.getElem?_append_left (by omega)] at this
    have := beforeHeld _ (List.mem_of_getElem? this)
    rw [Bool.not_not, free] at this
    cases this
  have named : candidates[before.length]? = some name := by simp [split]
  rw [← candidatesDef, List.getElem?_map, List.getElem?_range (by omega)] at named
  refine ⟨by simpa using nameFree, .inr ⟨before.length + 2, by omega, by omega,
    (Option.some.inj named).symm, trivial, fun m low high => ?_⟩⟩
  -- every candidate before the first free one is held
  have taken : candidates[m - 2]? = some ("CHECK_" ++ t.name ++ "_" ++ toString m) := by
    rw [← candidatesDef, List.getElem?_map, List.getElem?_range (by omega)]
    simp only [Option.map_some, Nat.sub_add_cancel low]
  rw [split, List.getElem?_append_left (by omega)] at taken
  simpa using beforeHeld _ (List.mem_of_getElem? taken)

end Rails

end Schemata
