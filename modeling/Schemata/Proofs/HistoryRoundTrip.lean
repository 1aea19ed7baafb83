import Mathlib
import Schemata.Proofs.HistoryReplay

/-!
# Prepare, commit and undo on any history

A history read from outside may hold anything: versions out of order, several versions of one
number, versions numbered `0`. The content at a number still replays, in ascending order of
number, the versions numbered at most it, and versions of one number in the order they are
stored, since the sort is stable.

A version prepared on the latest number and committed at once is stored last and numbered one
past every other version. So it is replayed last (`mergeSort_append_of_le`): the content at
its number, which is the new latest content, is the latest content with its patch applied
(`contentAt_append_of_lt`). Undo picks it again (`latestPosition_append_of_le`), and its
reverse patch, the difference back, leads to the content before. Prepare, commit and undo
are a round trip (`prepare_commit_undo`).

Numbers are 32-bit words, and the round trip needs the next number to be one. When the
latest number is `4294967295` the next one is `0`: the version is committed, but the latest
number stays where it was, and undo drops the old version instead of the new one
(`undo_after_last_number`).
-/

namespace Schemata

/-! ## Stable sorting -/

section StableSort

variable {α : Type} {le : α → α → Bool}

/-- Two entries of one list, each tagged with its position, that `zipIdxLE` orders both ways
are the same entry: ties are broken by position. -/
lemma eq_of_zipIdxLE {l : List α} {a b : α × Nat} (ha : a ∈ l.zipIdx) (hb : b ∈ l.zipIdx)
    (ab : List.zipIdxLE le a b = true) (ba : List.zipIdxLE le b a = true) : a = b := by
  obtain ⟨x, i⟩ := a
  obtain ⟨y, j⟩ := b
  have same : i = j := by
    simp only [List.zipIdxLE] at ab ba
    by_cases xy : le x y <;> by_cases yx : le y x <;> simp_all
    omega
  subst same
  obtain ⟨-, hx⟩ := List.mem_zipIdx' ha
  obtain ⟨-, hy⟩ := List.mem_zipIdx' hb
  rw [hx, hy]

/-- Merge sort is stable: an element appended after elements that are all at most it stays
last, and the others are sorted as before. -/
lemma mergeSort_append_of_le (trans : ∀ a b c, le a b → le b c → le a c)
    (total : ∀ a b, le a b || le b a) {l : List α} {x : α} (above : ∀ y ∈ l, le y x) :
    (l ++ [x]).mergeSort le = l.mergeSort le ++ [x] := by
  -- sort the entries tagged with their positions, where the sorted order is unique
  have tagged : (l ++ [x]).zipIdx = l.zipIdx ++ [(x, l.length)] := by
    simp [List.zipIdx_append]
  have sorted : ((l ++ [x]).zipIdx).mergeSort (List.zipIdxLE le) =
      l.zipIdx.mergeSort (List.zipIdxLE le) ++ [(x, l.length)] := by
    apply @List.Perm.eq_of_pairwise _ (fun a b => List.zipIdxLE le a b = true)
    · intro a b ha hb ab ba
      have hb' : b ∈ (l ++ [x]).zipIdx := by
        rw [tagged]
        simpa using hb
      exact eq_of_zipIdxLE (List.mem_mergeSort.mp ha) hb' ab ba
    · exact List.pairwise_mergeSort (List.zipIdxLE_trans trans) (List.zipIdxLE_total total) _
    · refine List.pairwise_append.mpr ⟨List.pairwise_mergeSort (List.zipIdxLE_trans trans)
        (List.zipIdxLE_total total) _, by simp, ?_⟩
      -- every earlier entry is at most `x` and sits before it
      rintro ⟨y, i⟩ earlier b last
      rw [List.mem_singleton] at last
      subst last
      obtain ⟨inside, hy⟩ := List.mem_zipIdx' (List.mem_mergeSort.mp earlier)
      have below := hy ▸ above _ (List.getElem_mem inside)
      simp only [List.zipIdxLE, below, if_true]
      split <;> simp [inside.le]
    · rw [tagged]
      exact (List.mergeSort_perm _ _).trans ((List.mergeSort_perm _ _).symm.append_right _)
  rw [← List.mergeSort_zipIdx, ← List.mergeSort_zipIdx (l := l), sorted]
  simp

end StableSort

namespace VersionHistory

/-! ## The latest number -/

lemma number_le_foldl_max {vs : List VersionRecord} {m : UInt32} :
    m ≤ vs.foldl (fun m v => max m v.number) m ∧
      ∀ v ∈ vs, v.number ≤ vs.foldl (fun m v => max m v.number) m := by
  induction vs generalizing m with
  | nil => simp
  | cons w ws ih =>
    obtain ⟨start, rest⟩ := ih (m := max m w.number)
    simp only [UInt32.le_iff_toNat_le, UInt32.toNat_max, List.foldl_cons] at start rest ⊢
    refine ⟨by omega, ?_⟩
    rintro v (_ | ⟨_, stored⟩)
    · omega
    · exact rest v stored

/-- Every stored version is numbered at most the latest number. -/
lemma number_le_latestNumber {h : VersionHistory} {v : VersionRecord} (stored : v ∈ h.versions) :
    v.number ≤ h.latestNumber :=
  number_le_foldl_max.2 v stored

@[simp] lemma latestNumber_append (h : VersionHistory) (v : VersionRecord) :
    ({ h with versions := h.versions ++ [v] } : VersionHistory).latestNumber =
      max h.latestNumber v.number := by
  simp [latestNumber, List.foldl_append]

/-! ## Replaying a version stored last -/

lemma contentAt_eq_replay (h : VersionHistory) (n : UInt32) :
    h.contentAt n = replay h.initial
      ((h.versions.filter (·.number ≤ n)).mergeSort (fun a b => a.number ≤ b.number)) := rfl

/-- Sorting versions by number keeps a version stored last and numbered at least the others
at the end. -/
lemma sortByNumber_append {vs : List VersionRecord} {v : VersionRecord}
    (above : ∀ w ∈ vs, w.number ≤ v.number) :
    (vs ++ [v]).mergeSort (fun a b => a.number ≤ b.number) =
      vs.mergeSort (fun a b => a.number ≤ b.number) ++ [v] :=
  mergeSort_append_of_le
    (fun _ _ _ ab bc => by simp only [decide_eq_true_eq] at *; exact UInt32.le_trans ab bc)
    (fun a b => by simpa using UInt32.le_total a.number b.number) (by simpa using above)

/-- The content at the number of a version stored last, numbered past the latest, is the
latest content with the version's patch applied. -/
lemma contentAt_append_of_lt {h : VersionHistory} {v : VersionRecord} {c c' : Json}
    (past : h.latestNumber < v.number) (latest : h.latestContent = .ok c)
    (forward : Json.applyPatch c v.patch = .ok c') :
    ({ h with versions := h.versions ++ [v] } : VersionHistory).contentAt v.number = .ok c' := by
  have below : ∀ w ∈ h.versions, w.number ≤ h.latestNumber := fun _ => number_le_latestNumber
  -- every version is replayed on both sides: the old ones up to the latest, all up to `v`
  have upToLatest : h.versions.filter (·.number ≤ h.latestNumber) = h.versions :=
    List.filter_eq_self.mpr (by simpa using below)
  have upToNew : (h.versions ++ [v]).filter (·.number ≤ v.number) = h.versions ++ [v] :=
    List.filter_eq_self.mpr fun w stored => by
      rcases List.mem_append.mp stored with old | new
      · exact decide_eq_true (UInt32.le_trans (below w old) (UInt32.le_of_lt past))
      · rw [List.mem_singleton.mp new]
        exact decide_eq_true (UInt32.le_refl _)
  rw [latestContent, contentAt_eq_replay, upToLatest] at latest
  rw [contentAt_eq_replay, upToNew,
    sortByNumber_append (fun w stored => UInt32.le_trans (below w stored) (UInt32.le_of_lt past))]
  exact replay_snoc latest forward

/-! ## The round trip -/

/-- Preparing on the latest number applies the patch to the latest content and numbers the
version one past the latest; the reverse patch is the difference back. -/
lemma prepare_latest {h : VersionHistory} {c c' : Json} {patch : List PatchOp}
    (latest : h.latestContent = .ok c) (applied : Json.applyPatch c patch = .ok c') :
    h.prepare h.latestNumber patch = .ok ⟨c', ⟨h.latestNumber + 1, patch, Json.diff c' c⟩⟩ := by
  rw [latestContent] at latest
  simp [prepare, latest, applied, bind, Except.bind, pure, Except.pure]

/-- The number after the latest, when the latest is not the last word. -/
lemma latestNumber_lt_succ {h : VersionHistory} (room : h.latestNumber.toNat + 1 < 2 ^ 32) :
    h.latestNumber < h.latestNumber + 1 ∧
      (h.latestNumber + 1).toNat = h.latestNumber.toNat + 1 := by
  have next : (h.latestNumber + 1).toNat = h.latestNumber.toNat + 1 := by
    rw [UInt32.toNat_add, UInt32.toNat_one]
    exact Nat.mod_eq_of_lt room
  exact ⟨UInt32.lt_iff_toNat_lt.mpr (by omega), next⟩

/-- **Prepare, commit, undo.** On any history whose latest content `c` replays, a patch that
applies to `c` and gives `c'` is prepared on the latest number as a version numbered one past
it, holding `c'`. Committing it returns `c'`, after which the latest content is `c'` and the
latest number is one higher. Undoing then returns a document that is the same as `c` and gives
back the history exactly as it was. The documents are ones the program can hold, and the
latest number is not the last 32-bit word. -/
theorem prepare_commit_undo {h : VersionHistory} {c c' : Json} {patch : List PatchOp}
    (latest : h.latestContent = .ok c) (applied : Json.applyPatch c patch = .ok c')
    (wellFormed : c.wellFormed = true) (wellFormed' : c'.wellFormed = true)
    (room : h.latestNumber.toNat + 1 < 2 ^ 32) :
    ∃ p, h.prepare h.latestNumber patch = .ok p ∧
      p.record.number.toNat = h.latestNumber.toNat + 1 ∧ p.content = c' ∧
      ∃ h', h.commit p = .ok (c', h') ∧ h'.latestContent = .ok c' ∧
        h'.latestNumber.toNat = h.latestNumber.toNat + 1 ∧
        ∃ r, h'.undo = .ok (r, h) ∧ r.same c = true := by
  obtain ⟨past, next⟩ := latestNumber_lt_succ room
  let v : VersionRecord := ⟨h.latestNumber + 1, patch, Json.diff c' c⟩
  let h' : VersionHistory := { h with versions := h.versions ++ [v] }
  have committed : h.commit ⟨c', v⟩ = .ok (c', h') := commit_eq_ok.mpr ⟨rfl, rfl, rfl⟩
  have number' : h'.latestNumber = h.latestNumber + 1 := by
    apply UInt32.toNat_inj.mp
    have grows := UInt32.lt_iff_toNat_lt.mp past
    simp only [h', v, latestNumber_append, UInt32.toNat_max]
    omega
  have latest' : h'.latestContent = .ok c' := by
    rw [latestContent, number']
    exact contentAt_append_of_lt past latest applied
  -- undo finds the new version last and reverts along the difference back to `c`
  have position : latestPosition h'.versions = some h.versions.length :=
    latestPosition_append_of_le fun w stored =>
      UInt32.le_trans (number_le_latestNumber stored) (UInt32.le_of_lt past)
  have back := Json.applyPatch_diff_eq_align wellFormed' wellFormed
  have undone : h'.undo = .ok (Json.align c' c, h) := by
    simp only [undo, latest', position, bind, Except.bind, pure, Except.pure]
    simp [h', v, back, eraseIdx_length_append_singleton]
  exact ⟨⟨c', v⟩, prepare_latest latest applied, next, rfl, h', committed, latest',
    by rw [number', next], _, undone, Json.same_align wellFormed' wellFormed⟩

/-- A history of the empty document with two versions both numbered `0`: one adds `a`, the
next adds `b`. -/
def twinZeroHistory : VersionHistory :=
  { initial := .obj [],
    versions := [⟨0, [.add "/a" (.num (.nat 1))], []⟩, ⟨0, [.add "/b" (.num (.nat 2))], []⟩] }

/-- The round trip on `twinZeroHistory`, adding `c`: the two versions numbered `0` replay in the
order they are stored, the new version is numbered `1`, and undo gives back `{"a": 1, "b": 2}`
and the two old versions. -/
theorem prepare_commit_undo_twin_zero :
    ∃ p, twinZeroHistory.prepare twinZeroHistory.latestNumber [.add "/c" (.num (.nat 3))] = .ok p ∧
      p.record.number.toNat = twinZeroHistory.latestNumber.toNat + 1 ∧
      p.content = .obj [("a", .num (.nat 1)), ("b", .num (.nat 2)), ("c", .num (.nat 3))] ∧
      ∃ h', twinZeroHistory.commit p =
          .ok (.obj [("a", .num (.nat 1)), ("b", .num (.nat 2)), ("c", .num (.nat 3))], h') ∧
        h'.latestContent = .ok (.obj [("a", .num (.nat 1)), ("b", .num (.nat 2)), ("c", .num (.nat 3))]) ∧
        h'.latestNumber.toNat = twinZeroHistory.latestNumber.toNat + 1 ∧
        ∃ r, h'.undo = .ok (r, twinZeroHistory) ∧
          r.same (.obj [("a", .num (.nat 1)), ("b", .num (.nat 2))]) = true :=
  -- both versions are numbered at most the latest number `0`, and the sort keeps their order
  have sorted : (twinZeroHistory.versions.filter (·.number ≤ twinZeroHistory.latestNumber)).mergeSort
      (fun a b => a.number ≤ b.number) = twinZeroHistory.versions := by
    have kept : twinZeroHistory.versions.filter (·.number ≤ twinZeroHistory.latestNumber) =
        [⟨0, [.add "/a" (.num (.nat 1))], []⟩] ++ [⟨0, [.add "/b" (.num (.nat 2))], []⟩] := rfl
    rw [kept, sortByNumber_append (by simp), List.mergeSort_singleton]
    rfl
  have latest : twinZeroHistory.latestContent = .ok (.obj [("a", .num (.nat 1)), ("b", .num (.nat 2))]) := by
    rw [latestContent, contentAt_eq_replay, sorted]
    rfl
  prepare_commit_undo latest (by rfl) (by decide +kernel) (by decide +kernel) (by decide)

/-- A history whose only version is numbered `4294967295`, on the document `{"a": 1}`. -/
def lastNumberHistory : VersionHistory :=
  { initial := .obj [("a", .num (.nat 1))], versions := [⟨4294967295, [], []⟩] }

/-- **The last number.** On `lastNumberHistory` the latest content is `{"a": 1}`, and adding
`b` applies to it, but preparing on the latest number gives a version numbered `0`. It is
committed; the latest number stays `4294967295`, and undo drops the old version instead of the
new one, so the versions are not given back. -/
theorem undo_after_last_number :
    lastNumberHistory.latestContent = .ok (.obj [("a", .num (.nat 1))]) ∧
      Json.applyPatch (.obj [("a", .num (.nat 1))]) [.add "/b" (.num (.nat 2))] =
        .ok (.obj [("a", .num (.nat 1)), ("b", .num (.nat 2))]) ∧
      ¬ ∃ p h' r h'', lastNumberHistory.prepare lastNumberHistory.latestNumber
          [.add "/b" (.num (.nat 2))] = .ok p ∧
        lastNumberHistory.commit p = .ok (p.content, h') ∧
        h'.undo = .ok (r, h'') ∧ h''.versions = lastNumberHistory.versions := by
  have top : lastNumberHistory.latestNumber = 4294967295 := by decide
  refine ⟨?_, by rfl, ?_⟩
  · rw [latestContent, top, contentAt_eq_replay]
    simp [lastNumberHistory, replay, Json.applyPatch, Json.applyPatch.go]
  rintro ⟨p, h', r, h'', prepared, committed, undone, restored⟩
  obtain ⟨current, -, -, -, made⟩ := prepare_eq_ok prepared
  obtain ⟨-, -, rfl⟩ := commit_eq_ok.mp committed
  obtain ⟨pos, position, rfl⟩ := undo_eq_ok undone
  -- the new version is numbered `0`, so the old one, stored first, is the latest
  have wrapped : p.record.number = 0 := by rw [made]; rfl
  have first : latestPosition (lastNumberHistory.versions ++ [p.record]) = some 0 := by
    simp [latestPosition, lastNumberHistory, wrapped]
  rw [first, Option.some.injEq] at position
  subst position
  have numbers := congrArg (List.map (·.number)) restored
  simp [lastNumberHistory, wrapped] at numbers

end VersionHistory

end Schemata
