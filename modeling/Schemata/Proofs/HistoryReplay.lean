import Mathlib
import Schemata.Json.History
import Schemata.Proofs.DiffApply

/-!
# Version histories replay and undo

A history keeps an initial document and numbered versions. The content at a number replays the
versions' patches from the initial document, and each version keeps a reverse patch that is
meant to lead back to the content before it. This file states what a client's calls keep true.

* `Replays start vs c`: from `start` the patches of `vs` apply one after another and end at
  `c`; the versions are numbered `1, …, n`; each reverse patch leads back to the content
  before it (`Leads`). On such a history the content at a number is the replay of the versions
  up to it (`contentAt_of_replays`), so the history is `Replayable`.
* A commit of a version that fits the history keeps `Replays` (`Replays.commit`), and so does
  an undo (`Replays.undo`). A version fits when it was prepared on the latest content, which
  every version that `prepare` returns is for the history it was prepared on (`prepare_fits`).
* A `HistorySession` runs a client's calls. When every commit that the history accepts is of
  a version that fits it, every history the run reaches is `Replayable`.

Commit compares version numbers only. A version prepared before an undo carries the number
that the history reaches again after another commit, and commit then stores it on top of
content it was not prepared on. Its patch no longer replays (`stale_commit_breaks_replay`).
-/

namespace Schemata

namespace VersionHistory

/-! ## Numbering -/

/-- The versions are numbered `1, 2, …, n` in the order they are stored. -/
def Numbered (vs : List VersionRecord) : Prop :=
  vs.map (fun v => v.number.toNat) = List.range' 1 vs.length

lemma numbered_snoc {vs : List VersionRecord} {v : VersionRecord} :
    Numbered (vs ++ [v]) ↔ Numbered vs ∧ v.number.toNat = vs.length + 1 := by
  simp [Numbered, List.range'_1_concat, List.append_singleton_inj, Nat.add_comm 1]

lemma number_of_numbered {vs : List VersionRecord} (numbered : Numbered vs) {k : Nat}
    (hk : k < vs.length) : vs[k].number.toNat = k + 1 := by
  have at_k := congrArg (·[k]?) numbered
  simp only [List.getElem?_map, List.getElem?_eq_getElem hk, Option.map_some,
    List.getElem?_range' hk] at at_k
  simp at at_k
  omega

lemma latestNumber_of_numbered {h : VersionHistory} (numbered : Numbered h.versions) :
    h.latestNumber.toNat = h.versions.length := by
  obtain ⟨s, vs⟩ := h
  induction vs using List.reverseRecOn with
  | nil => rfl
  | append_singleton vs v ih =>
    rw [numbered_snoc] at numbered
    have before := ih numbered.1
    simp only [latestNumber, List.foldl_append, List.foldl_cons, List.foldl_nil] at before ⊢
    rw [UInt32.toNat_max, before, numbered.2, List.length_append, List.length_singleton]
    omega

/-- On numbered versions, those numbered at most `k` are the first `k`. -/
lemma filter_number_le {vs : List VersionRecord} (numbered : Numbered vs) (k : UInt32) :
    vs.filter (·.number ≤ k) = vs.take k.toNat := by
  induction vs using List.reverseRecOn with
  | nil => simp
  | append_singleton vs v ih =>
    rw [numbered_snoc] at numbered
    rw [List.filter_append, ih numbered.1]
    by_cases within : v.number ≤ k
    · have past : vs.length + 1 ≤ k.toNat := by
        rw [UInt32.le_iff_toNat_le, numbered.2] at within
        exact within
      have all : (vs ++ [v]).take k.toNat = vs ++ [v] := List.take_of_length_le (by simp; omega)
      have first : vs.take k.toNat = vs := List.take_of_length_le (by omega)
      rw [all, first]
      simp [within]
    · have before : k.toNat ≤ vs.length := by
        rw [UInt32.le_iff_toNat_le, numbered.2] at within
        omega
      rw [List.take_append_of_le_length before]
      simp [within]

lemma pairwise_of_numbered {vs : List VersionRecord} (numbered : Numbered vs) :
    vs.Pairwise (fun a b => a.number < b.number) := by
  have ascending : (vs.map fun v => v.number.toNat).Pairwise (· < ·) := by
    rw [numbered]
    exact List.pairwise_lt_range'
  rw [List.pairwise_map] at ascending
  exact ascending.imp fun lt => UInt32.lt_iff_toNat_lt.mpr lt

/-! ## Replaying versions -/

/-- Apply the versions' patches one after another from `start`, as `contentAt` does with the
versions it chooses. -/
def replay (start : Json) (vs : List VersionRecord) : Except VersionError Json :=
  vs.foldlM (fun content v =>
    match Json.applyPatch content v.patch with
    | .ok c => .ok c
    | .error e => .error (.replay v.number e)) start

lemma replay_snoc {start c c' : Json} {vs : List VersionRecord} {v : VersionRecord}
    (before : replay start vs = .ok c) (forward : Json.applyPatch c v.patch = .ok c') :
    replay start (vs ++ [v]) = .ok c' := by
  simp only [replay] at before ⊢
  rw [List.foldlM_append, before]
  simp only [bind, Except.bind, List.foldlM_cons, List.foldlM_nil, forward]
  rfl

/-- On numbered versions, the content at `k` replays the first `k` versions. -/
lemma contentAt_of_numbered {h : VersionHistory} (numbered : Numbered h.versions) (k : UInt32) :
    h.contentAt k = replay h.initial (h.versions.take k.toNat) := by
  have sorted : (h.versions.take k.toNat).Pairwise fun a b => decide (a.number ≤ b.number) :=
    ((pairwise_of_numbered numbered).sublist (List.take_sublist _ _)).imp
      fun lt => decide_eq_true (UInt32.le_of_lt lt)
  unfold contentAt
  rw [filter_number_le numbered, List.mergeSort_of_pairwise sorted]
  rfl

/-- One step of the search for the latest position: keep the best so far unless the version
is numbered at least as high. -/
def latestStep (best : Option (UInt32 × Nat)) (vi : VersionRecord × Nat) : Option (UInt32 × Nat) :=
  match best with
  | some (n, _) => if vi.1.number ≥ n then some (vi.1.number, vi.2) else best
  | none => some (vi.1.number, vi.2)

lemma latestPosition_eq_foldl (vs : List VersionRecord) :
    latestPosition vs = (vs.zipIdx.foldl latestStep none).map (·.2) := rfl

/-- The search holds nothing, or the number of a stored version. -/
lemma latestStep_foldl_number (ws : List VersionRecord) :
    ws.zipIdx.foldl latestStep none = none ∨
      ∃ w ∈ ws, ∃ i, ws.zipIdx.foldl latestStep none = some (w.number, i) := by
  induction ws using List.reverseRecOn with
  | nil => simp
  | append_singleton ws v ih =>
    right
    rw [List.zipIdx_append, List.foldl_append]
    rcases ih with empty | ⟨w, stored, i, found⟩
    · exact ⟨v, by simp, ws.length, by simp [empty, latestStep]⟩
    · simp only [found, List.zipIdx_singleton, List.foldl_cons, List.foldl_nil, latestStep]
      split
      · exact ⟨v, by simp, ws.length, by simp⟩
      · exact ⟨w, by simp [stored], i, rfl⟩

/-- A version stored last and numbered at least every other version is the latest. -/
lemma latestPosition_append_of_le {ws : List VersionRecord} {v : VersionRecord}
    (above : ∀ w ∈ ws, w.number ≤ v.number) : latestPosition (ws ++ [v]) = some ws.length := by
  rw [latestPosition_eq_foldl, List.zipIdx_append, List.foldl_append]
  rcases latestStep_foldl_number ws with empty | ⟨w, stored, i, found⟩
  · simp [empty, latestStep]
  · simp [found, latestStep, above w stored]

/-- On numbered versions, the latest is the last stored. -/
lemma latestPosition_of_numbered {ws : List VersionRecord} {v : VersionRecord}
    (numbered : Numbered (ws ++ [v])) : latestPosition (ws ++ [v]) = some ws.length := by
  rw [numbered_snoc] at numbered
  apply latestPosition_append_of_le
  intro w stored
  obtain ⟨k, hk, rfl⟩ := List.getElem_of_mem stored
  rw [UInt32.le_iff_toNat_le, number_of_numbered numbered.1 hk, numbered.2]
  omega

/-! ## The replay invariant -/

/-- Version `v`, stored after `n` others, leads from content `c` to `c'` and back: it is
numbered `n + 1`, its patch turns `c` into the well-formed `c'`, and its reverse patch turns
`c'` into a document that is the same as `c`. -/
structure Leads (n : Nat) (c : Json) (v : VersionRecord) (c' : Json) : Prop where
  number : v.number.toNat = n + 1
  forward : Json.applyPatch c v.patch = .ok c'
  wellFormed : c'.wellFormed = true
  backward : ∃ r, Json.applyPatch c' v.reversePatch = .ok r ∧ r.same c = true

/-- The versions `vs` lead from `start` to `c`, each one from the content before it. -/
inductive Replays (start : Json) : List VersionRecord → Json → Prop
  | nil (wellFormed : start.wellFormed = true) : Replays start [] start
  | snoc {vs : List VersionRecord} {c c' : Json} {v : VersionRecord} (before : Replays start vs c)
      (leads : Leads vs.length c v c') : Replays start (vs ++ [v]) c'

section Replays

variable {start c : Json} {vs : List VersionRecord}

lemma Replays.numbered (replays : Replays start vs c) : Numbered vs := by
  induction replays with
  | nil => rfl
  | snoc _ leads ih => exact numbered_snoc.mpr ⟨ih, leads.number⟩

lemma Replays.wellFormed (replays : Replays start vs c) : c.wellFormed = true := by
  cases replays with
  | nil wellFormed => exact wellFormed
  | snoc _ leads => exact leads.wellFormed

lemma Replays.replay_eq (replays : Replays start vs c) : replay start vs = .ok c := by
  induction replays with
  | nil => rfl
  | snoc _ leads ih => exact replay_snoc ih leads.forward

/-- The last version of a replaying list leads from the content of the ones before it. -/
lemma Replays.of_snoc {v : VersionRecord} {c' : Json} (replays : Replays start (vs ++ [v]) c') :
    ∃ c, Replays start vs c ∧ Leads vs.length c v c' := by
  generalize stored : vs ++ [v] = all at replays
  cases replays with
  | nil => simp at stored
  | snoc before leads =>
    obtain ⟨rfl, rfl⟩ := List.append_singleton_inj.mp stored
    exact ⟨_, before, leads⟩

lemma Replays.take (replays : Replays start vs c) (k : Nat) : ∃ c', Replays start (vs.take k) c' := by
  induction replays generalizing k with
  | nil wellFormed => exact ⟨start, by simpa using Replays.nil wellFormed⟩
  | @snoc vs c c' v before leads ih =>
    by_cases within : k ≤ vs.length
    · rw [List.take_append_of_le_length within]
      exact ih k
    · rw [List.take_of_length_le (by simp; omega)]
      exact ⟨c', before.snoc leads⟩

end Replays

/-! ## What a replaying history promises -/

/-- What a history promises its clients: its versions are numbered `1, …, n` in the order they
are stored, its latest content replays, and the reverse patch of each version turns the content
at its number into a document that is the same as the content at the number before. -/
def Replayable (h : VersionHistory) : Prop :=
  Numbered h.versions ∧ (∃ c, h.latestContent = .ok c) ∧
    ∀ v ∈ h.versions, ∃ c c' r, h.contentAt v.number = .ok c ∧
      h.contentAt (v.number - 1) = .ok c' ∧ Json.applyPatch c v.reversePatch = .ok r ∧
      r.same c' = true

section History

variable {h : VersionHistory} {c : Json}

lemma length_lt_of_numbered {vs : List VersionRecord} (numbered : Numbered vs) :
    vs.length < 2 ^ 32 := by
  rcases Nat.eq_zero_or_pos vs.length with empty | nonempty
  · omega
  · -- the last version is numbered with the length, and numbers are words
    have last := number_of_numbered numbered (show vs.length - 1 < vs.length by omega)
    have word := (vs[vs.length - 1]).number.toNat_lt
    omega

/-- On a replaying history, the content at `k` is where the first `k` versions lead. -/
lemma contentAt_of_replays (replays : Replays h.initial h.versions c) {k : Nat} {c' : Json}
    (upTo : Replays h.initial (h.versions.take k) c') (hk : k ≤ h.versions.length) :
    h.contentAt (UInt32.ofNat k) = .ok c' := by
  have small : k < 2 ^ 32 := lt_of_le_of_lt hk (length_lt_of_numbered replays.numbered)
  rw [contentAt_of_numbered replays.numbered, UInt32.toNat_ofNat_of_lt' small]
  exact upTo.replay_eq

lemma latestContent_of_replays (replays : Replays h.initial h.versions c) :
    h.latestContent = .ok c := by
  rw [latestContent, contentAt_of_numbered replays.numbered,
    latestNumber_of_numbered replays.numbered, List.take_length]
  exact replays.replay_eq

/-- A history whose versions replay keeps every promise of `Replayable`. -/
theorem replayable_of_replays (replays : Replays h.initial h.versions c) : h.Replayable := by
  refine ⟨replays.numbered, ⟨c, latestContent_of_replays replays⟩, ?_⟩
  intro v stored
  obtain ⟨k, hk, rfl⟩ := List.getElem_of_mem stored
  have number := number_of_numbered replays.numbered hk
  have words := length_lt_of_numbered replays.numbered
  -- the first `k + 1` versions end with this one, which leads back to where the first `k` end
  obtain ⟨c₁, upTo⟩ := replays.take (k + 1)
  have at_number := contentAt_of_replays replays upTo hk
  rw [List.take_succ_eq_append_getElem hk] at upTo
  obtain ⟨c₀, before, leads⟩ := upTo.of_snoc
  have at_previous := contentAt_of_replays replays before (by omega)
  obtain ⟨r, back, same⟩ := leads.backward
  have current : h.versions[k].number = UInt32.ofNat (k + 1) := by
    apply UInt32.toNat_inj.mp
    rw [number, UInt32.toNat_ofNat_of_lt' (show k + 1 < 2 ^ 32 by omega)]
  have previous : h.versions[k].number - 1 = UInt32.ofNat k := by
    apply UInt32.toNat_inj.mp
    rw [UInt32.toNat_sub_of_le _ _ (by rw [UInt32.le_iff_toNat_le, number]; simp),
      number, UInt32.toNat_ofNat_of_lt' (show k < 2 ^ 32 by omega)]
    simp
  refine ⟨c₁, c₀, r, ?_, ?_, back, same⟩
  · rw [current, at_number]
  · rw [previous, at_previous]

/-! ## One call at a time -/

/-- A computation followed by another succeeds exactly when the first succeeds and the second
succeeds on its value. -/
lemma except_bind_eq_ok {ε α β : Type} {x : Except ε α} {f : α → Except ε β} {b : β} :
    x >>= f = .ok b ↔ ∃ a, x = .ok a ∧ f a = .ok b := by
  cases x <;> simp [bind, Except.bind]

/-- Preparing computes the content from the content at the expected number, and succeeds only
when that number is the latest; the new version is numbered one past it. -/
lemma prepare_eq_ok {e : UInt32} {patch : List PatchOp} {p : PreparedVersion}
    (prepared : h.prepare e patch = .ok p) :
    ∃ current, h.contentAt e = .ok current ∧ Json.applyPatch current patch = .ok p.content ∧
      e = h.latestNumber ∧ p.record = ⟨h.latestNumber + 1, patch, Json.diff p.content current⟩ := by
  unfold prepare at prepared
  obtain ⟨current, at_e, rest⟩ := except_bind_eq_ok.mp prepared
  cases applied : Json.applyPatch current patch with
  | error err =>
    simp only [applied] at rest
    obtain ⟨_, thrown, -⟩ := except_bind_eq_ok.mp rest
    cases thrown
  | ok content =>
    simp [applied] at rest
    split at rest
    · cases rest
      exact ⟨current, at_e, applied, ‹_›, rfl⟩
    · cases rest

/-- A commit stores the version exactly when it is numbered one past the latest. -/
lemma commit_eq_ok {p : PreparedVersion} {x : Json} {h' : VersionHistory} :
    h.commit p = .ok (x, h') ↔
      p.record.number = h.latestNumber + 1 ∧ x = p.content ∧
        h' = { h with versions := h.versions ++ [p.record] } := by
  unfold commit
  by_cases accepted : p.record.number = h.latestNumber + 1
  · simp [accepted, eq_comm]
  · simp [accepted]

/-- An undo drops the version at the latest position. -/
lemma undo_eq_ok {x : Json} {h' : VersionHistory} (undone : h.undo = .ok (x, h')) :
    ∃ pos, latestPosition h.versions = some pos ∧
      h' = { h with versions := h.versions.eraseIdx pos } := by
  unfold undo at undone
  obtain ⟨latest, -, rest⟩ := except_bind_eq_ok.mp undone
  cases position : latestPosition h.versions with
  | none => simp only [position] at rest; cases rest
  | some pos =>
    simp only [position] at rest
    split at rest
    · cases rest
      exact ⟨pos, rfl, rfl⟩
    · obtain ⟨_, thrown, -⟩ := except_bind_eq_ok.mp rest
      cases thrown

end History

end VersionHistory

namespace PreparedVersion

/-- A prepared version fits a history when it was prepared on the history's latest content:
its patch turns that content into the version's content, and its reverse patch is the
difference from the version's content back to it. -/
def Fits (p : PreparedVersion) (h : VersionHistory) : Prop :=
  ∃ c, h.latestContent = .ok c ∧ Json.applyPatch c p.record.patch = .ok p.content ∧
    p.record.reversePatch = Json.diff p.content c

end PreparedVersion

namespace VersionHistory

variable {h h' : VersionHistory} {c x : Json}

/-- Every version that `prepare` returns fits the history it was prepared on. -/
theorem prepare_fits {e : UInt32} {patch : List PatchOp} {p : PreparedVersion}
    (prepared : h.prepare e patch = .ok p) : p.Fits h := by
  obtain ⟨current, at_e, applied, rfl, record⟩ := prepare_eq_ok prepared
  exact ⟨current, at_e, record ▸ applied, by rw [record]⟩

/-- Committing a version that fits the history, and whose content is well-formed, keeps the
history replaying. -/
lemma Replays.commit {p : PreparedVersion} (replays : Replays h.initial h.versions c)
    (fits : p.Fits h) (wellFormed : p.content.wellFormed = true)
    (room : h.versions.length + 1 < 2 ^ 32) (committed : h.commit p = .ok (x, h')) :
    Replays h'.initial h'.versions p.content := by
  obtain ⟨number, -, rfl⟩ := commit_eq_ok.mp committed
  obtain ⟨c', latest, forward, reverse⟩ := fits
  -- the version was prepared on `c` itself, the latest content
  rw [latestContent_of_replays replays, Except.ok.injEq] at latest
  subst latest
  have numbered : p.record.number.toNat = h.versions.length + 1 := by
    rw [number, UInt32.toNat_add, latestNumber_of_numbered replays.numbered]
    simp only [UInt32.toNat_one]
    omega
  refine replays.snoc ⟨numbered, forward, wellFormed, ?_⟩
  rw [reverse]
  exact ⟨_, Json.applyPatch_diff_eq_align wellFormed replays.wellFormed,
    Json.same_align wellFormed replays.wellFormed⟩

lemma eraseIdx_length_append_singleton {ws : List VersionRecord} {v : VersionRecord} :
    (ws ++ [v]).eraseIdx ws.length = ws := by
  rw [List.eraseIdx_append_of_length_le (Nat.le_refl _)]
  simp

/-- Undoing drops the last version, and the versions before it still replay. -/
lemma Replays.undo (replays : Replays h.initial h.versions c) (undone : h.undo = .ok (x, h')) :
    ∃ c', Replays h'.initial h'.versions c' := by
  obtain ⟨pos, position, rfl⟩ := undo_eq_ok undone
  rcases List.eq_nil_or_concat' h.versions with empty | ⟨ws, v, stored⟩
  · simp [empty, latestPosition] at position
  · rw [stored] at replays position
    rw [latestPosition_of_numbered replays.numbered, Option.some.injEq] at position
    obtain ⟨c', before, -⟩ := replays.of_snoc
    refine ⟨c', ?_⟩
    simpa [stored, ← position, eraseIdx_length_append_singleton] using before

/-- On a history whose versions replay, undoing the latest version succeeds, and it reverts to a
document that is the same as the content before that version. -/
theorem undo_of_replays {ws : List VersionRecord} {v : VersionRecord}
    (replays : Replays h.initial (ws ++ [v]) c) (stored : h.versions = ws ++ [v]) :
    ∃ c' r, Replays h.initial ws c' ∧ r.same c' = true ∧
      h.undo = .ok (r, { h with versions := ws }) := by
  obtain ⟨c', before, leads⟩ := replays.of_snoc
  obtain ⟨r, back, same⟩ := leads.backward
  have position := latestPosition_of_numbered replays.numbered
  rw [← stored] at replays position
  refine ⟨c', r, before, same, ?_⟩
  simp only [undo, latestContent_of_replays replays, position, bind, Except.bind, pure,
    Except.pure]
  simp [stored, back, eraseIdx_length_append_singleton]

end VersionHistory

/-! ## Runs of calls -/

/-- A call a client makes on a history. `commit i` commits the version that the `i`-th
successful prepare returned. -/
inductive HistoryCall where
  | prepare (expected : UInt32) (patch : List PatchOp)
  | commit (index : Nat)
  | undo

/-- A history and the versions prepared on it so far. -/
structure HistorySession where
  history : VersionHistory
  prepared : List PreparedVersion := []

namespace HistorySession

/-- A new history of `s`, with nothing prepared. -/
def start (s : Json) : HistorySession := ⟨{ initial := s }, []⟩

/-- Make one call. A call that fails leaves the session as it was. -/
def call (s : HistorySession) : HistoryCall → HistorySession
  | .prepare e patch =>
    match s.history.prepare e patch with
    | .ok p => { s with prepared := s.prepared ++ [p] }
    | .error _ => s
  | .commit i =>
    match s.prepared[i]? with
    | some p =>
      match s.history.commit p with
      | .ok (_, h) => { s with history := h }
      | .error _ => s
    | none => s
  | .undo =>
    match s.history.undo with
    | .ok (_, h) => { s with history := h }
    | .error _ => s

/-- Make the calls in order. -/
def run (s : HistorySession) (calls : List HistoryCall) : HistorySession :=
  calls.foldl call s

/-- A call fits the session unless it is a commit that the history accepts of a version that
does not fit it: the version must fit the history, hold a well-formed document, and be
numbered below `2 ^ 32`. -/
def FitsCall (s : HistorySession) : HistoryCall → Prop
  | .commit i => ∀ p, s.prepared[i]? = some p → p.record.number = s.history.latestNumber + 1 →
      p.Fits s.history ∧ p.content.wellFormed = true ∧ s.history.versions.length + 1 < 2 ^ 32
  | _ => True

/-- Every call of the run fits the session it is made on. -/
def CommitsFit : HistorySession → List HistoryCall → Prop
  | _, [] => True
  | s, call₁ :: rest => s.FitsCall call₁ ∧ (s.call call₁).CommitsFit rest

/-- The session's history replays. -/
def Sound (s : HistorySession) : Prop :=
  ∃ c, VersionHistory.Replays s.history.initial s.history.versions c

@[simp] lemma call_prepare_history (s : HistorySession) (e : UInt32) (patch : List PatchOp) :
    (s.call (.prepare e patch)).history = s.history := by
  simp only [call]
  split <;> rfl

lemma call_prepare_of_ok {s : HistorySession} {e : UInt32} {patch : List PatchOp}
    {p : PreparedVersion} (prepared : s.history.prepare e patch = .ok p) :
    (s.call (.prepare e patch)).prepared = s.prepared ++ [p] := by
  simp [call, prepared]

/-- A commit call leaves the history alone, or is a commit that the history accepts of a
version prepared earlier. -/
lemma call_commit_history (s : HistorySession) (i : Nat) :
    (s.call (.commit i)).history = s.history ∨
      ∃ p x, s.prepared[i]? = some p ∧ s.history.commit p = .ok (x, (s.call (.commit i)).history) := by
  simp only [call]
  split
  · rename_i p found
    split
    · rename_i x h' committed
      exact .inr ⟨p, x, found, committed⟩
    · exact .inl rfl
  · exact .inl rfl

/-- An undo call leaves the history alone, or is an undo that succeeds. -/
lemma call_undo_history (s : HistorySession) :
    (s.call .undo).history = s.history ∨ ∃ x, s.history.undo = .ok (x, (s.call .undo).history) := by
  simp only [call]
  split
  · rename_i x h' undone
    exact .inr ⟨x, undone⟩
  · exact .inl rfl

/-- **One call.** A call that fits keeps the history replaying. -/
lemma Sound.call {s : HistorySession} (sound : s.Sound) {call₁ : HistoryCall}
    (fits : s.FitsCall call₁) : (s.call call₁).Sound := by
  obtain ⟨c, replays⟩ := sound
  cases call₁ with
  | prepare e patch => exact ⟨c, by rw [call_prepare_history]; exact replays⟩
  | commit i =>
    rcases call_commit_history s i with same | ⟨p, x, found, committed⟩
    · exact ⟨c, by rw [same]; exact replays⟩
    · obtain ⟨number, -, -⟩ := VersionHistory.commit_eq_ok.mp committed
      obtain ⟨fit, wellFormed, room⟩ := fits p found number
      exact ⟨p.content, replays.commit fit wellFormed room committed⟩
  | undo =>
    rcases call_undo_history s with same | ⟨x, undone⟩
    · exact ⟨c, by rw [same]; exact replays⟩
    · exact replays.undo undone

/-- **Whole runs.** A run whose calls fit keeps the history replaying. -/
lemma Sound.run {s : HistorySession} (sound : s.Sound) {calls : List HistoryCall}
    (fits : s.CommitsFit calls) : (s.run calls).Sound := by
  induction calls generalizing s with
  | nil => exact sound
  | cons call₁ rest ih => exact ih (sound.call fits.1) fits.2

/-- **Histories stay replayable.** From a well-formed document, every run in which each commit
that the history accepts is of a version that fits it (it was prepared on the latest content,
holds a well-formed document and is numbered below `2 ^ 32`) reaches a history whose versions
are numbered `1, …, n`, whose latest content replays, and in which the reverse patch of each
version leads from the content at its number back to the content at the number before. -/
theorem replayable_of_commitsFit {s : Json} (wellFormed : s.wellFormed = true)
    {calls : List HistoryCall} (fits : (start s).CommitsFit calls) :
    ((start s).run calls).history.Replayable := by
  obtain ⟨c, replays⟩ := Sound.run ⟨s, VersionHistory.Replays.nil wellFormed⟩ fits
  exact VersionHistory.replayable_of_replays replays

/-- A version prepared and then committed on an empty document. -/
theorem replayable_of_commitsFit_prepare_commit :
    ((start (.obj [])).run [.prepare 0 [.add "/a" (.num (.nat 1))], .commit 0]).history.Replayable := by
  refine replayable_of_commitsFit (by decide +kernel) ⟨trivial, ?_, trivial⟩
  intro p found _
  have wellFormed : (match (start (.obj [])).history.prepare 0 [.add "/a" (.num (.nat 1))] with
      | .ok p => p.content.wellFormed
      | .error _ => false) = true := by decide +kernel
  cases prepared : (start (.obj [])).history.prepare 0 [.add "/a" (.num (.nat 1))] with
  | error e => rw [prepared] at wellFormed; cases wellFormed
  | ok p₀ =>
    rw [prepared] at wellFormed
    rw [call_prepare_of_ok prepared] at found
    simp only [start, List.nil_append, List.getElem?_cons_zero, Option.some.injEq] at found
    subst found
    rw [call_prepare_history]
    exact ⟨VersionHistory.prepare_fits prepared, wellFormed, by simp [start]⟩

/-- **A stale commit.** Prepare two versions on the empty document, commit the first, prepare
its removal on top, undo, and commit the second: the history is at number `1` again. The
removal was prepared on the first content and is numbered `2`, so committing it now stores it
on top of the second content, where its patch does not apply. The latest content no longer
replays. -/
theorem stale_commit_breaks_replay :
    ¬ ((start (.obj [])).run
      [.prepare 0 [.add "/a" (.num (.nat 1))], .prepare 0 [.add "/b" (.num (.nat 2))],
        .commit 0, .prepare 1 [.remove "/a"], .undo, .commit 1, .commit 2]).history.Replayable := by
  rintro ⟨numbered, ⟨c, latest⟩, -⟩
  -- the versions stored are numbered, so the latest content replays all of them in order
  rw [VersionHistory.latestContent, VersionHistory.contentAt_of_numbered numbered] at latest
  have replayed : (Except.ok c : Except VersionError Json).toBool = true := rfl
  rw [← latest] at replayed
  revert replayed
  decide +kernel

end HistorySession

end Schemata
