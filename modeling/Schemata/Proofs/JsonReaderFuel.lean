import Mathlib
import Schemata.Proofs.JsonScalarFuel
import Schemata.Tbls.Document

/-!
# Reading JSON through a shape runs to completion

`Shape.readText` reads a text with a bound of four rounds for each character
and sixty-four more. This module proves that the bound never binds for any
shape whose own need (`Shape.need`) is at most sixty-four, and in particular
for the shape of tbls documents: more fuel gives the same outcome
(`readShaped_fuelSuffices`, `Tbls.fuelSuffices`).

The argument counts what is left of the text. Every reading that succeeds
hands back no more text than it was given (`ReadProgress`); reading a value
always moves past at least one character. A round of the shaped reader that
goes on either moves past text, which pays four rounds for each character, or
steps into a part of the shape without moving (an optional or defaulted value,
a record field given as a list that is too short), which the shape's need
pays for. `ReadSettles` collects the nine readers of the mutual block at one
bound; `readSettles` proves it of every bound, one round at a time.

Members that a record does not declare are skipped by a syntax check that
keeps a stack of the open lists and objects (`skipValue`); its four loops
settle within three rounds for each character (`SkipSettles`).
-/

namespace Schemata

namespace Json

open Cursor

/-! ## What a shape needs -/

namespace Shape

mutual
/-- The rounds a reading through a shape needs beyond four for each character
left: one for each optional or defaulted wrapper met without moving, and one
for each field of a record given as a list, which may be missing. -/
def need : Shape → Nat
  | .any => 2
  | .opt inner => inner.need + 1
  | .fallback _ inner => inner.need + 1
  | .seq item => item.need
  | .dict item => item.need
  | .record _ fields => fieldsNeed fields + 1
  | .untagged _ _ => 2
  | .tagged _ _ _ => 2
  | .text | .flag | .int64 | .nat32 | .float64 | .keyword _ => 1

/-- The rounds the fields of a record given as a list need, from the first. -/
def fieldsNeed : List (String × Shape) → Nat
  | [] => 0
  | (_, shape) :: more => max shape.need (fieldsNeed more) + 1
end

theorem fieldsNeed_eq_zero : ∀ fields : List (String × Shape), fieldsNeed fields = 0 → fields = []
  | [], _ => rfl
  | _ :: _, h => by simp [fieldsNeed] at h

theorem one_le_need : ∀ s : Shape, 1 ≤ s.need
  | .seq item => one_le_need item
  | .dict item => one_le_need item
  | .opt _ | .fallback _ _ | .record _ _ => by simp [need]
  | .any | .text | .flag | .int64 | .nat32 | .float64 | .untagged _ _ | .tagged _ _ _
    | .keyword _ => by simp [need]

theorem need_lt_fieldsNeed {name : String} {shape : Shape} :
    ∀ {fields : List (String × Shape)}, (name, shape) ∈ fields → shape.need < fieldsNeed fields
  | (_, _) :: more, mem => by
    simp only [fieldsNeed]
    rcases List.mem_cons.mp mem with same | later
    · cases same
      omega
    · have := need_lt_fieldsNeed later
      omega

theorem need_lt_fieldsNeed_of_lookup {name : String} {shape : Shape}
    {fields : List (String × Shape)} (h : fields.lookup name = some shape) :
    shape.need < fieldsNeed fields := by
  obtain ⟨before, after, rfl, -⟩ := List.lookup_eq_some_iff.mp h
  exact need_lt_fieldsNeed (List.mem_append_right before List.mem_cons_self)

end Shape

/-! ## Skipping a value -/

/-- The syntax check of a skipped value hands back no more text than it was given. -/
structure SkipProgress (f : Nat) : Prop where
  go : ∀ stack c x, skipValue.go f stack c = .ok x → x.2.rest.length ≤ c.rest.length
  after : ∀ stack b c x, skipValue.after f stack b c = .ok x → x.2.rest.length ≤ c.rest.length
  opened : ∀ stack c x, skipValue.opened f stack c = .ok x → x.2.rest.length ≤ c.rest.length
  member : ∀ stack c x, skipValue.member f stack c = .ok x → x.2.rest.length ≤ c.rest.length

theorem skipProgress : ∀ f, SkipProgress f
  | 0 =>
    -- without fuel every loop stops where it stands
    ⟨fun _ _ _ h => by cases h; exact Nat.le_refl _, fun _ _ _ _ h => by cases h; exact Nat.le_refl _,
      fun _ _ _ h => by cases h; exact Nat.le_refl _, fun _ _ _ h => by cases h; exact Nat.le_refl _⟩
  | f + 1 => by
    have ih := skipProgress f
    constructor
    · intro stack c x h
      simp only [skipValue.go] at h
      have := length_skipBlank_le c
      have := length_bump_le c.skipBlank
      repeat' split at h
      -- each scalar is moved past before the end of the value is looked for
      all_goals first
        | (simp at h; done)
        | exact (ih.opened _ _ _ h).trans (by omega)
        | exact (ih.after _ _ _ _ h).trans ((expectWord_progress _ _ ‹_›).trans (by omega))
        | exact (ih.after _ _ _ _ h).trans ((skipNumber_progress ‹_›).le.trans (by omega))
        | exact (ih.after _ _ _ _ h).trans ((skipString_progress ‹_›).trans (by omega))
    · intro stack b c x h
      simp only [skipValue.after] at h
      have := length_skipBlank_le c
      have := length_bump_le c.skipBlank
      repeat' split at h
      all_goals first
        | (simp at h; done)
        | (cases h; exact Nat.le_refl _)
        | exact (ih.member _ _ _ h).trans (by omega)
        | exact (ih.after _ _ _ _ h).trans (by omega)
    · intro stack c x h
      simp only [skipValue.opened] at h
      have := length_skipBlank_le c
      have := length_bump_le c.skipBlank
      repeat' split at h
      all_goals first
        | (simp at h; done)
        | (cases h; exact Nat.le_refl _)
        | exact (ih.member _ _ _ h).trans (by omega)
        | exact (ih.after _ _ _ _ h).trans (by omega)
    · intro stack c x h
      simp only [skipValue.member] at h
      have := length_skipBlank_le c
      have := length_bump_le c.skipBlank
      repeat' split at h
      all_goals first
        | (simp at h; done)
        | exact (ih.go _ _ _ h)
        | skip
      -- a key of an object is moved past with its colon before the value
      have := skipString_progress ‹skipString _ _ = _›
      have := objectColon_progress ‹objectColon _ = _›
      exact (ih.go _ _ _ h).trans (by omega)

lemma skipValue_progress {f : Nat} {c : Cursor} {x : Unit × Cursor}
    (h : skipValue f c = .ok x) : x.2.rest.length ≤ c.rest.length :=
  (skipProgress f).go [] c x h

/-- The four loops of the syntax check settle within three rounds for each
character left: a loop that goes on without moving hands on to one that moves. -/
structure SkipSettles (f : Nat) : Prop where
  go : ∀ stack c, 3 * c.rest.length + 1 ≤ f → ∀ k,
    skipValue.go (f + k) stack c = skipValue.go f stack c
  after : ∀ stack b c, 3 * c.rest.length + 1 ≤ f → ∀ k,
    skipValue.after (f + k) stack b c = skipValue.after f stack b c
  opened : ∀ stack c, 3 * c.rest.length + 3 ≤ f → ∀ k,
    skipValue.opened (f + k) stack c = skipValue.opened f stack c
  member : ∀ stack c, 3 * c.rest.length + 2 ≤ f → ∀ k,
    skipValue.member (f + k) stack c = skipValue.member f stack c

theorem skipSettles : ∀ f, SkipSettles f
  | 0 => ⟨fun _ _ h => by omega, fun _ _ _ h => by omega, fun _ _ h => by omega,
      fun _ _ h => by omega⟩
  | f + 1 => by
    have ih := skipSettles f
    constructor
    · intro stack c within k
      rw [Nat.add_right_comm]
      simp only [skipValue.go]
      have := length_skipBlank_le c
      split
      · rfl
      · next ch peeked =>
        have := length_bump_of_peek peeked
        rw [skipNumber_settles (c := c.skipBlank.bump) (by omega) k,
          skipNumber_settles (c := c.skipBlank) (by omega) k,
          skipString_settles (c := c.skipBlank.bump) (by omega) k]
        repeat' split
        -- past a scalar the value's end is looked for, past a bracket its first member
        all_goals first
          | rfl
          | exact ih.opened _ _ (by omega) k
          | exact ih.after _ _ _ (by have := expectWord_progress _ _ ‹expectWord _ _ = _›; omega) k
          | exact ih.after _ _ _ (by have := skipNumber_progress ‹skipNumber _ _ = _›; omega) k
          | exact ih.after _ _ _ (by have := skipString_progress ‹skipString _ _ = _›; omega) k
    · intro stack b c within k
      rw [Nat.add_right_comm]
      simp only [skipValue.after]
      have := length_skipBlank_le c
      split
      · rfl
      · split
        · next peeked =>
          have := length_bump_of_peek peeked
          exact ih.member _ _ (by omega) k
        · next peeked =>
          have := length_bump_of_peek peeked
          split
          · exact ih.after _ _ _ (by omega) k
          · rfl
        · next peeked =>
          have := length_bump_of_peek peeked
          split
          · exact ih.after _ _ _ (by omega) k
          · rfl
        · rfl
        · rfl
    · intro stack c within k
      rw [Nat.add_right_comm]
      simp only [skipValue.opened]
      have := length_skipBlank_le c
      split
      · rfl
      · split
        · next peeked =>
          have := length_bump_of_peek peeked
          split
          · exact ih.after _ _ _ (by omega) k
          · exact ih.member _ _ (by omega) k
        · next peeked =>
          have := length_bump_of_peek peeked
          split
          · exact ih.after _ _ _ (by omega) k
          · exact ih.member _ _ (by omega) k
        · exact ih.member _ _ (by omega) k
        · rfl
    · intro stack c within k
      rw [Nat.add_right_comm]
      simp only [skipValue.member]
      have := length_skipBlank_le c
      split
      · split
        · next peeked =>
          have := length_bump_of_peek peeked
          rw [skipString_settles (by omega) k]
          split
          · rfl
          · next c₁ key =>
            have := skipString_progress key
            split
            · rfl
            · next c₂ colon =>
              have := objectColon_progress colon
              exact ih.go _ _ (by omega) k
        · rfl
        · rfl
      · exact ih.go _ _ (by omega) k

/-- Skipping a value settles within three rounds for each character left and one more. -/
theorem skipValue_settles {f : Nat} {c : Cursor} (enough : 3 * c.rest.length + 1 ≤ f) (k : Nat) :
    skipValue (f + k) c = skipValue f c :=
  (skipSettles f).go [] c enough k

/-! ## Progress of the shaped reader -/

/-- What the nine readers of a shaped reading hand back when they succeed: a
value is read past at least one character, a list of items, members or fields
past no more than it was given. -/
structure ReadProgress (f : Nat) : Prop where
  any : ∀ d c x, readAny f d c = .ok x → x.2.rest.length < c.rest.length
  anyItems : ∀ d first acc c x, readAnyItems f d first acc c = .ok x →
    x.2.rest.length ≤ c.rest.length
  anyMembers : ∀ d first acc c x, readAnyMembers f d first acc c = .ok x →
    x.2.rest.length ≤ c.rest.length
  shaped : ∀ d s c x, readShaped f d s c = .ok x → x.2.rest.length < c.rest.length
  items : ∀ d item first acc c x, readItems f d item first acc c = .ok x →
    x.2.rest.length ≤ c.rest.length
  entries : ∀ d item first acc c x, readEntries f d item first acc c = .ok x →
    x.2.rest.length ≤ c.rest.length
  members : ∀ d fields first found c x, readMembers f d fields first found c = .ok x →
    x.2.rest.length ≤ c.rest.length
  elements : ∀ d expecting fields total i first c x,
    readElements f d expecting fields total i first c = .ok x → x.2.rest.length ≤ c.rest.length
  tagMembers : ∀ d tag names first seen acc c x,
    readTagMembers f d tag names first seen acc c = .ok x → x.2.rest.length ≤ c.rest.length

/-- A key and its colon: the key's quotes and the colon are moved past. -/
lemma key_progress {f : Nat} {first b : Bool} {c c₁ c₂ c₃ : Cursor} {k : String} {u : Unit}
    (start : nextKeyStart first c = .ok (b, c₁)) (isKey : b = true)
    (key : readString f c₁.bump = .ok (k, c₂)) (colon : objectColon c₂ = .ok (u, c₃)) :
    c₃.rest.length + 2 ≤ c.rest.length := by
  obtain ⟨started, quote⟩ := nextKeyStart_progress start
  have := length_bump_of_peek (quote isKey)
  have := readString_progress key
  have := objectColon_progress colon
  omega

/-- A key starts at its opening quote, so it is read within the characters left. -/
lemma key_settles {f : Nat} {first : Bool} {c c₁ : Cursor}
    (start : nextKeyStart first c = .ok (true, c₁)) (enough : c.rest.length ≤ f) (k : Nat) :
    readString (f + k) c₁.bump = readString f c₁.bump := by
  obtain ⟨started, quote⟩ := nextKeyStart_progress start
  have := length_bump_of_peek (quote rfl)
  exact readString_settles (by omega) k

/-- A literal word read after its first letter ends past that letter. -/
lemma word_progress {w : List Char} {ch : Char} {v : Json} {c : Cursor} {x : Json × Cursor}
    (peeked : c.peek? = some ch) (h : (expectWord w c.bump).map (fun y => (v, y.2)) = .ok x) :
    x.2.rest.length < c.rest.length := by
  obtain ⟨_, word, rfl⟩ := map_eq_ok h
  have := expectWord_progress _ _ word
  have := length_bump_of_peek peeked
  dsimp only
  omega

/-- A string read after its opening quote ends past that quote. -/
lemma string_progress {f : Nat} {ch : Char} {c : Cursor} {x : Json × Cursor}
    (peeked : c.peek? = some ch) (h : (readString f c.bump).map (fun y => (.str y.1, y.2)) = .ok x) :
    x.2.rest.length < c.rest.length := by
  obtain ⟨_, string, rfl⟩ := map_eq_ok h
  have := readString_progress string
  have := length_bump_of_peek peeked
  dsimp only
  omega

lemma number_progress {f : Nat} {neg : Bool} {c : Cursor} {x : Json × Cursor}
    (h : (readNumber f neg c).map (fun y => (.num y.1, y.2)) = .ok x) :
    x.2.rest.length < c.rest.length := by
  obtain ⟨_, number, rfl⟩ := map_eq_ok h
  exact readNumber_progress number

namespace ReadProgress

variable {f : Nat} (ih : ReadProgress f)
include ih

lemma any_succ : ∀ d c x, readAny (f + 1) d c = .ok x → x.2.rest.length < c.rest.length := by
  intro d c x h
  simp only [readAny] at h
  have blank := length_skipBlank_le c
  split at h
  · simp at h
  · next peeked => exact (word_progress peeked h).trans_le blank
  · next peeked => exact (word_progress peeked h).trans_le blank
  · next peeked => exact (word_progress peeked h).trans_le blank
  · next peeked =>
    have := length_bump_of_peek peeked
    have := number_progress h
    omega
  · next peeked => exact (string_progress peeked h).trans_le blank
  · next peeked =>
    have := length_bump_of_peek peeked
    split at h
    · simp at h
    · obtain ⟨c₀, items, closed⟩ := settle_closeWith_progress endList_progress h
      have := ih.anyItems _ _ _ _ _ items
      dsimp only at this
      omega
  · next peeked =>
    have := length_bump_of_peek peeked
    split at h
    · simp at h
    · obtain ⟨c₀, members, closed⟩ := settle_closeWith_progress endObject_progress h
      have := ih.anyMembers _ _ _ _ _ members
      dsimp only at this
      omega
  · split at h
    · exact (number_progress h).trans_le blank
    · simp at h

lemma shaped_succ : ∀ d s c x, readShaped (f + 1) d s c = .ok x →
    x.2.rest.length < c.rest.length := by
  intro d s c x h
  have blank := length_skipBlank_le c
  have bumped := length_bump_le c.skipBlank
  cases s with
  | any =>
    simp only [readShaped] at h
    exact ih.any _ _ _ h
  | fallback _ inner =>
    simp only [readShaped] at h
    exact ih.shaped _ _ _ _ h
  | opt inner =>
    simp only [readShaped] at h
    split at h
    · next peeked => exact (word_progress peeked h).trans_le blank
    · exact (ih.shaped _ _ _ _ h).trans_le blank
  | text =>
    simp only [readShaped] at h
    split at h
    · simp at h
    · next peeked => exact (string_progress peeked h).trans_le blank
    · exact absurd h invalidTypeAt_ne_ok
  | flag =>
    simp only [readShaped] at h
    split at h
    · simp at h
    · next peeked => exact (word_progress peeked h).trans_le blank
    · next peeked => exact (word_progress peeked h).trans_le blank
    · exact absurd h invalidTypeAt_ne_ok
  | int64 | nat32 | float64 =>
    simp only [readShaped] at h
    -- the number read is accepted or refused where it ends
    split at h
    · simp at h
    · next peeked =>
      have := length_bump_of_peek peeked
      split at h
      · next n c₁ number =>
        have := readNumber_progress number
        rw [liftDecode_eq_ok (settle_eq_ok.mp h)]
        omega
      · simp at h
    · split at h
      · split at h
        · next n c₁ number =>
          have := readNumber_progress number
          rw [liftDecode_eq_ok (settle_eq_ok.mp h)]
          omega
        · simp at h
      · exact absurd h invalidTypeAt_ne_ok
  | seq item =>
    simp only [readShaped] at h
    split at h
    · simp at h
    · next peeked =>
      have := length_bump_of_peek peeked
      split at h
      · simp at h
      · obtain ⟨c₀, items, closed⟩ := settle_closeWith_progress endList_progress h
        have := ih.items _ _ _ _ _ _ items
        dsimp only at this
        omega
    · exact absurd h invalidTypeAt_ne_ok
  | dict item =>
    simp only [readShaped] at h
    split at h
    · simp at h
    · next peeked =>
      have := length_bump_of_peek peeked
      split at h
      · simp at h
      · obtain ⟨c₀, entries, closed⟩ := settle_closeWith_progress endObject_progress h
        have := ih.entries _ _ _ _ _ _ entries
        dsimp only at this
        omega
    · exact absurd h invalidTypeAt_ne_ok
  | record name fields =>
    simp only [readShaped] at h
    split at h
    · simp at h
    · next peeked =>
      have := length_bump_of_peek peeked
      split at h
      · simp at h
      · obtain ⟨c₀, elements, closed⟩ := settle_closeWith_progress endList_progress h
        have := ih.elements _ _ _ _ _ _ _ _ elements
        dsimp only at this
        omega
    · next peeked =>
      have := length_bump_of_peek peeked
      split at h
      · simp at h
      · obtain ⟨c₀, read, closed⟩ := settle_closeWith_progress endObject_progress h
        -- the members found are filled into the record where they end
        split at read
        · next found c₁ members =>
          have := ih.members _ _ _ _ _ _ members
          split at read
          · cases read
            dsimp only at this
            omega
          · simp at read
        · simp at read
    · exact absurd h invalidTypeAt_ne_ok
  | untagged name alts =>
    simp only [readShaped] at h
    split at h
    · simp at h
    · next v c₁ value =>
      have := ih.any _ _ _ value
      rw [liftDecode_eq_ok h]
      exact this
  | tagged name tag variants =>
    simp only [readShaped] at h
    split at h
    · simp at h
    · next peeked =>
      have := length_bump_of_peek peeked
      split at h
      · simp at h
      · split at h
        · simp at h
        · next t content c₁ read =>
          obtain ⟨c₀, members, closed⟩ := settle_closeWith_progress endObject_progress read
          have := ih.tagMembers _ _ _ _ _ _ _ _ members
          rw [liftDecode_eq_ok h]
          dsimp only at closed this
          omega
    · next peeked =>
      have := length_bump_of_peek peeked
      split at h
      · simp at h
      · split at h
        · simp at h
        · next t content c₁ read =>
          rw [liftDecode_eq_ok h]
          obtain ⟨c₀, read, closed⟩ := settle_closeWith_progress endList_progress read
          dsimp only at closed
          -- the variant name and then the remaining elements, as plain values
          split at read
          · simp at read
          · simp at read
          · next c₂ start =>
            have := nextElementStart_progress start
            split at read
            · simp at read
            · next v c₃ variant =>
              have := readVariantName_progress variant
              split at read
              · simp at read
              · next rest c₄ items =>
                have := ih.anyItems _ _ _ _ _ items
                dsimp only at this
                split at read <;> (cases read; omega)
    · split at h
      · simp at h
      · simp at h
  | keyword variants =>
    simp only [readShaped] at h
    split at h
    · simp at h
    · exact (readVariantName_progress h).trans_le blank
    · next peeked =>
      have := length_bump_of_peek peeked
      split at h
      · simp at h
      · split at h
        · simp at h
        · next v c₁ variant =>
          have := readVariantName_progress variant
          split at h
          · simp at h
          · next u c₂ colon =>
            have := objectColon_progress colon
            have := length_skipBlank_le c₂
            -- the unit value, then the closing brace
            split at h
            · simp at h
            · next u' c₃ unit =>
              have : c₃.rest.length ≤ c₂.skipBlank.rest.length := by
                split at unit
                · simp at unit
                · next peeked' =>
                  have := expectWord_progress _ _ unit
                  have := length_bump_of_peek peeked'
                  omega
                · split at unit
                  · simp at unit
                  · exact absurd ‹invalidTypeAt _ _ _ = _› invalidTypeAt_ne_ok
              have := length_skipBlank_le c₃
              split at h
              · next peeked' =>
                cases h
                have := length_bump_of_peek peeked'
                dsimp only
                omega
              · simp at h
              · simp at h
    · simp at h

lemma anyItems_succ : ∀ d first acc c x, readAnyItems (f + 1) d first acc c = .ok x →
    x.2.rest.length ≤ c.rest.length := by
  intro d first acc c x h
  simp only [readAnyItems] at h
  split at h
  · simp at h
  · next c₁ start =>
    cases h
    exact nextElementStart_progress start
  · next c₁ start =>
    have := nextElementStart_progress start
    split at h
    · simp at h
    · next v c₂ value =>
      have moved := ih.any _ _ _ value
      have := ih.anyItems _ _ _ _ _ h
      dsimp only at moved
      omega

lemma anyMembers_succ : ∀ d first acc c x, readAnyMembers (f + 1) d first acc c = .ok x →
    x.2.rest.length ≤ c.rest.length := by
  intro d first acc c x h
  simp only [readAnyMembers] at h
  split at h
  · simp at h
  · next c₁ start =>
    cases h
    exact (nextKeyStart_progress start).1
  · next c₁ start =>
    split at h
    · simp at h
    · next k c₂ key =>
      split at h
      · simp at h
      · next u c₃ colon =>
        have := key_progress start rfl key colon
        split at h
        · simp at h
        · next v c₄ value =>
          have moved := ih.any _ _ _ value
          have := ih.anyMembers _ _ _ _ _ h
          dsimp only at moved
          omega

lemma items_succ : ∀ d item first acc c x, readItems (f + 1) d item first acc c = .ok x →
    x.2.rest.length ≤ c.rest.length := by
  intro d item first acc c x h
  simp only [readItems] at h
  split at h
  · simp at h
  · next c₁ start =>
    cases h
    exact nextElementStart_progress start
  · next c₁ start =>
    have := nextElementStart_progress start
    split at h
    · simp at h
    · next v c₂ value =>
      have moved := ih.shaped _ _ _ _ value
      have := ih.items _ _ _ _ _ _ h
      dsimp only at moved
      omega

lemma entries_succ : ∀ d item first acc c x, readEntries (f + 1) d item first acc c = .ok x →
    x.2.rest.length ≤ c.rest.length := by
  intro d item first acc c x h
  simp only [readEntries] at h
  split at h
  · simp at h
  · next c₁ start =>
    cases h
    exact (nextKeyStart_progress start).1
  · next c₁ start =>
    split at h
    · simp at h
    · next k c₂ key =>
      split at h
      · simp at h
      · next u c₃ colon =>
        have := key_progress start rfl key colon
        split at h
        · simp at h
        · next v c₄ value =>
          have moved := ih.shaped _ _ _ _ value
          have := ih.entries _ _ _ _ _ _ h
          dsimp only at moved
          omega

lemma members_succ : ∀ d fields first found c x,
    readMembers (f + 1) d fields first found c = .ok x → x.2.rest.length ≤ c.rest.length := by
  intro d fields first found c x h
  simp only [readMembers] at h
  split at h
  · simp at h
  · next c₁ start =>
    cases h
    exact (nextKeyStart_progress start).1
  · next c₁ start =>
    split at h
    · simp at h
    · next k c₂ key =>
      split at h
      · -- a declared field
        split at h
        · simp at h
        · split at h
          · simp at h
          · next u c₃ colon =>
            have := key_progress start rfl key colon
            split at h
            · simp at h
            · next v c₄ value =>
              have moved := ih.shaped _ _ _ _ value
              have := ih.members _ _ _ _ _ _ h
              dsimp only at moved
              omega
      · -- an unknown member, skipped
        split at h
        · simp at h
        · next u c₃ colon =>
          have := key_progress start rfl key colon
          split at h
          · simp at h
          · next u' c₄ skipped =>
            have moved := skipValue_progress skipped
            have := ih.members _ _ _ _ _ _ h
            dsimp only at moved
            omega

lemma elements_succ : ∀ d expecting fields total i first c x,
    readElements (f + 1) d expecting fields total i first c = .ok x →
      x.2.rest.length ≤ c.rest.length := by
  intro d expecting fields total i first c x h
  cases fields with
  | nil =>
    simp only [readElements] at h
    cases h
    exact Nat.le_refl _
  | cons field more =>
    obtain ⟨name, shape⟩ := field
    simp only [readElements] at h
    -- the rest of the fields, whether they add a member or fail
    have rest : ∀ first c', c'.rest.length ≤ c.rest.length →
        ∀ y, readElements f d expecting more total (i + 1) first c' = .ok y →
          y.2.rest.length ≤ c.rest.length :=
      fun first c' behind y read => (ih.elements _ _ _ _ _ _ _ _ read).trans behind
    split at h
    · simp at h
    · next c₁ start =>
      have := nextElementStart_progress start
      split at h
      · split at h
        · next members c₂ read =>
          cases h
          exact rest _ _ (by omega) (obj members, c₂) read
        · exact rest _ _ (by omega) _ h
      · simp at h
    · next c₁ start =>
      have := nextElementStart_progress start
      split at h
      · simp at h
      · next v c₂ value =>
        have := ih.shaped _ _ _ _ value
        dsimp only at this
        split at h
        · next members c₃ read =>
          cases h
          exact rest _ _ (by omega) (obj members, c₃) read
        · exact rest _ _ (by omega) _ h

lemma tagMembers_succ : ∀ d tag names first seen acc c x,
    readTagMembers (f + 1) d tag names first seen acc c = .ok x →
      x.2.rest.length ≤ c.rest.length := by
  intro d tag names first seen acc c x h
  simp only [readTagMembers] at h
  split at h
  · simp at h
  · next c₁ start =>
    split at h
    · cases h
      exact (nextKeyStart_progress start).1
    · simp at h
  · next c₁ start =>
    split at h
    · simp at h
    · next k c₂ key =>
      split at h
      · -- the tag: its variant name
        split at h
        · simp at h
        · split at h
          · simp at h
          · next u c₃ colon =>
            have := key_progress start rfl key colon
            split at h
            · simp at h
            · next c₄ variant =>
              have := readVariantName_progress variant
              have := ih.tagMembers _ _ _ _ _ _ _ _ h
              omega
            · next c₄ _ variant =>
              have := readVariantName_progress variant
              have := ih.tagMembers _ _ _ _ _ _ _ _ h
              omega
      · -- another member, kept as content
        split at h
        · simp at h
        · next u c₃ colon =>
          have := key_progress start rfl key colon
          split at h
          · simp at h
          · next v c₄ value =>
            have moved := ih.any _ _ _ value
            have := ih.tagMembers _ _ _ _ _ _ _ _ h
            dsimp only at moved
            omega

end ReadProgress

theorem readProgress : ∀ f, ReadProgress f
  | 0 =>
    -- without fuel a value is a fault and a list of parts stops where it stands
    { any := fun _ _ _ h => absurd h failNext_ne_ok
      anyItems := fun _ _ _ _ _ h => by cases h; exact Nat.le_refl _
      anyMembers := fun _ _ _ _ _ h => by cases h; exact Nat.le_refl _
      shaped := fun _ _ _ _ h => by simp only [readShaped] at h; exact absurd h failNext_ne_ok
      items := fun _ _ _ _ _ _ h => by simp only [readItems] at h; cases h; exact Nat.le_refl _
      entries := fun _ _ _ _ _ _ h => by simp only [readEntries] at h; cases h; exact Nat.le_refl _
      members := fun _ _ _ _ _ _ h => by simp only [readMembers] at h; cases h; exact Nat.le_refl _
      elements := fun _ _ _ _ _ _ _ _ h => by
        simp only [readElements] at h
        cases h
        exact Nat.le_refl _
      tagMembers := fun _ _ _ _ _ _ _ _ h => by cases h; exact Nat.le_refl _ }
  | f + 1 =>
    have ih := readProgress f
    { any := ih.any_succ
      anyItems := ih.anyItems_succ
      anyMembers := ih.anyMembers_succ
      shaped := ih.shaped_succ
      items := ih.items_succ
      entries := ih.entries_succ
      members := ih.members_succ
      elements := ih.elements_succ
      tagMembers := ih.tagMembers_succ }

/-! ## The shaped reader's bound -/

/-- The nine readers of a shaped reading settle at `f` wherever four rounds for
each character left, and the need of what they read, fit in `f`. -/
structure ReadSettles (f : Nat) : Prop where
  any : ∀ d c, 4 * c.rest.length + 1 ≤ f → ∀ k, readAny (f + k) d c = readAny f d c
  anyItems : ∀ d first acc c, 4 * c.rest.length + 2 ≤ f → ∀ k,
    readAnyItems (f + k) d first acc c = readAnyItems f d first acc c
  anyMembers : ∀ d first acc c, 4 * c.rest.length + 1 ≤ f → ∀ k,
    readAnyMembers (f + k) d first acc c = readAnyMembers f d first acc c
  shaped : ∀ d s c, 4 * c.rest.length + s.need ≤ f → ∀ k,
    readShaped (f + k) d s c = readShaped f d s c
  items : ∀ d item first acc c, 4 * c.rest.length + item.need + 1 ≤ f → ∀ k,
    readItems (f + k) d item first acc c = readItems f d item first acc c
  entries : ∀ d item first acc c, 4 * c.rest.length + item.need ≤ f → ∀ k,
    readEntries (f + k) d item first acc c = readEntries f d item first acc c
  members : ∀ d fields first found c, 4 * c.rest.length + Shape.fieldsNeed fields + 1 ≤ f → ∀ k,
    readMembers (f + k) d fields first found c = readMembers f d fields first found c
  elements : ∀ d expecting fields total i first c,
    4 * c.rest.length + Shape.fieldsNeed fields ≤ f → ∀ k,
      readElements (f + k) d expecting fields total i first c =
        readElements f d expecting fields total i first c
  tagMembers : ∀ d tag names first seen acc c, 4 * c.rest.length + 1 ≤ f → ∀ k,
    readTagMembers (f + k) d tag names first seen acc c =
      readTagMembers f d tag names first seen acc c

namespace ReadSettles

variable {f : Nat} (ih : ReadSettles f)
include ih

lemma any_succ : ∀ d c, 4 * c.rest.length + 1 ≤ f + 1 → ∀ k,
    readAny (f + 1 + k) d c = readAny (f + 1) d c := by
  intro d c within k
  rw [Nat.add_right_comm]
  simp only [readAny]
  have := length_skipBlank_le c
  split
  · rfl
  · rfl
  · rfl
  · rfl
  · next peeked =>
    have := length_bump_of_peek peeked
    rw [readNumber_settles (by omega) k]
  · next peeked =>
    have := length_bump_of_peek peeked
    rw [readString_settles (by omega) k]
  · next peeked =>
    have := length_bump_of_peek peeked
    split
    · rfl
    · rw [ih.anyItems _ _ _ _ (by omega) k]
  · next peeked =>
    have := length_bump_of_peek peeked
    split
    · rfl
    · rw [ih.anyMembers _ _ _ _ (by omega) k]
  · next peeked =>
    have := length_pos_of_peek peeked
    split
    · rw [readNumber_settles (by omega) k]
    · rfl

lemma anyItems_succ : ∀ d first acc c, 4 * c.rest.length + 2 ≤ f + 1 → ∀ k,
    readAnyItems (f + 1 + k) d first acc c = readAnyItems (f + 1) d first acc c := by
  intro d first acc c within k
  rw [Nat.add_right_comm]
  simp only [readAnyItems]
  split
  · rfl
  · rfl
  · next c₁ start =>
    have := nextElementStart_progress start
    rw [ih.any _ _ (by omega) k]
    split
    · rfl
    · next v c₂ value =>
      have := (readProgress f).any _ _ _ value
      exact ih.anyItems _ _ _ _ (by dsimp only at this; omega) k

lemma anyMembers_succ : ∀ d first acc c, 4 * c.rest.length + 1 ≤ f + 1 → ∀ k,
    readAnyMembers (f + 1 + k) d first acc c = readAnyMembers (f + 1) d first acc c := by
  intro d first acc c within k
  rw [Nat.add_right_comm]
  simp only [readAnyMembers]
  split
  · rfl
  · rfl
  · next c₁ start =>
    rw [key_settles start (by omega) k]
    split
    · rfl
    · next name c₂ key =>
      split
      · rfl
      · next u c₃ colon =>
        have := key_progress start rfl key colon
        rw [ih.any _ _ (by omega) k]
        split
        · rfl
        · next v c₄ value =>
          have := (readProgress f).any _ _ _ value
          exact ih.anyMembers _ _ _ _ (by dsimp only at this; omega) k

lemma shaped_succ : ∀ d s c, 4 * c.rest.length + s.need ≤ f + 1 → ∀ k,
    readShaped (f + 1 + k) d s c = readShaped (f + 1) d s c := by
  intro d s c within k
  have blank := length_skipBlank_le c
  rw [Nat.add_right_comm]
  cases s with
  | any =>
    simp only [Shape.need] at within
    simp only [readShaped]
    rw [ih.any _ _ (by omega) k]
  | fallback _ inner =>
    simp only [Shape.need] at within
    simp only [readShaped]
    rw [ih.shaped _ _ _ (by omega) k]
  | opt inner =>
    simp only [Shape.need] at within
    simp only [readShaped]
    split
    · rfl
    · rw [ih.shaped _ _ _ (by omega) k]
  | text =>
    simp only [Shape.need] at within
    simp only [readShaped]
    split
    · rfl
    · next peeked =>
      have := length_bump_of_peek peeked
      rw [readString_settles (by omega) k]
    · next peeked =>
      have := length_pos_of_peek peeked
      rw [invalidTypeAt_settles (by omega) k]
  | flag =>
    simp only [Shape.need] at within
    simp only [readShaped]
    split
    · rfl
    · rfl
    · rfl
    · next peeked =>
      have := length_pos_of_peek peeked
      rw [invalidTypeAt_settles (by omega) k]
  | int64 | nat32 | float64 =>
    simp only [Shape.need] at within
    simp only [readShaped]
    split
    · rfl
    · next peeked =>
      have := length_bump_of_peek peeked
      rw [readNumber_settles (by omega) k]
    · next peeked =>
      have := length_pos_of_peek peeked
      split
      · rw [readNumber_settles (by omega) k]
      · rw [invalidTypeAt_settles (by omega) k]
  | seq item =>
    simp only [Shape.need] at within
    simp only [readShaped]
    split
    · rfl
    · next peeked =>
      have := length_bump_of_peek peeked
      split
      · rfl
      · rw [ih.items _ _ _ _ _ (by omega) k]
    · next peeked =>
      have := length_pos_of_peek peeked
      rw [invalidTypeAt_settles (by omega) k]
  | dict item =>
    simp only [Shape.need] at within
    simp only [readShaped]
    split
    · rfl
    · next peeked =>
      have := length_bump_of_peek peeked
      split
      · rfl
      · rw [ih.entries _ _ _ _ _ (by omega) k]
    · next peeked =>
      have := length_pos_of_peek peeked
      rw [invalidTypeAt_settles (by omega) k]
  | record name fields =>
    simp only [Shape.need] at within
    simp only [readShaped]
    split
    · rfl
    · next peeked =>
      have := length_bump_of_peek peeked
      split
      · rfl
      · rw [ih.elements _ _ _ _ _ _ _ (by omega) k]
    · next peeked =>
      have := length_bump_of_peek peeked
      split
      · rfl
      · rw [ih.members _ _ _ _ _ (by omega) k]
    · next peeked =>
      have := length_pos_of_peek peeked
      rw [invalidTypeAt_settles (by omega) k]
  | untagged name alts =>
    simp only [Shape.need] at within
    simp only [readShaped]
    rw [ih.any _ _ (by omega) k]
  | tagged name tag variants =>
    simp only [Shape.need] at within
    simp only [readShaped]
    split
    · rfl
    · next peeked =>
      have := length_bump_of_peek peeked
      split
      · rfl
      · rw [ih.tagMembers _ _ _ _ _ _ _ (by omega) k]
    · next peeked =>
      have := length_bump_of_peek peeked
      split
      · rfl
      · -- the variant name and the remaining elements are read before the list is closed
        congr 3
        split
        · rfl
        · rfl
        · next c₁ start =>
          have := nextElementStart_progress start
          rw [readVariantName_settles (by omega) k]
          split
          · rfl
          · next v c₂ variant =>
            have := readVariantName_progress variant
            rw [ih.anyItems _ _ _ _ (by omega) k]
    · rw [ih.any _ _ (by omega) k]
  | keyword variants =>
    simp only [Shape.need] at within
    simp only [readShaped]
    split
    · rfl
    · next peeked =>
      have := length_pos_of_peek peeked
      rw [readVariantName_settles (by omega) k]
    · next peeked =>
      have := length_bump_of_peek peeked
      split
      · rfl
      · rw [readVariantName_settles (by omega) k]
        split
        · rfl
        · next v c₁ variant =>
          have := readVariantName_progress variant
          split
          · rfl
          · next u c₂ colon =>
            have := objectColon_progress colon
            have := length_skipBlank_le c₂
            rw [invalidTypeAt_settles (by omega) k]
    · rfl

lemma items_succ : ∀ d item first acc c, 4 * c.rest.length + item.need + 1 ≤ f + 1 → ∀ k,
    readItems (f + 1 + k) d item first acc c = readItems (f + 1) d item first acc c := by
  intro d item first acc c within k
  rw [Nat.add_right_comm]
  simp only [readItems]
  split
  · rfl
  · rfl
  · next c₁ start =>
    have := nextElementStart_progress start
    rw [ih.shaped _ _ _ (by omega) k]
    split
    · rfl
    · next v c₂ value =>
      have := (readProgress f).shaped _ _ _ _ value
      exact ih.items _ _ _ _ _ (by dsimp only at this; omega) k

lemma entries_succ : ∀ d item first acc c, 4 * c.rest.length + item.need ≤ f + 1 → ∀ k,
    readEntries (f + 1 + k) d item first acc c = readEntries (f + 1) d item first acc c := by
  intro d item first acc c within k
  have := item.one_le_need
  rw [Nat.add_right_comm]
  simp only [readEntries]
  split
  · rfl
  · rfl
  · next c₁ start =>
    rw [key_settles start (by omega) k]
    split
    · rfl
    · next name c₂ key =>
      split
      · rfl
      · next u c₃ colon =>
        have := key_progress start rfl key colon
        rw [ih.shaped _ _ _ (by omega) k]
        split
        · rfl
        · next v c₄ value =>
          have := (readProgress f).shaped _ _ _ _ value
          exact ih.entries _ _ _ _ _ (by dsimp only at this; omega) k

lemma members_succ : ∀ d fields first found c,
    4 * c.rest.length + Shape.fieldsNeed fields + 1 ≤ f + 1 → ∀ k,
      readMembers (f + 1 + k) d fields first found c = readMembers (f + 1) d fields first found c := by
  intro d fields first found c within k
  rw [Nat.add_right_comm]
  simp only [readMembers]
  split
  · rfl
  · rfl
  · next c₁ start =>
    rw [key_settles start (by omega) k]
    split
    · rfl
    · next name c₂ key =>
      split
      · -- a declared field, read through its shape
        next shape declared =>
        have := Shape.need_lt_fieldsNeed_of_lookup declared
        split
        · rfl
        · split
          · rfl
          · next u c₃ colon =>
            have := key_progress start rfl key colon
            rw [ih.shaped _ _ _ (by omega) k]
            split
            · rfl
            · next v c₄ value =>
              have := (readProgress f).shaped _ _ _ _ value
              exact ih.members _ _ _ _ _ (by dsimp only at this; omega) k
      · -- an unknown member, skipped
        split
        · rfl
        · next u c₃ colon =>
          have := key_progress start rfl key colon
          rw [skipValue_settles (by omega) k]
          split
          · rfl
          · next u' c₄ skipped =>
            have := skipValue_progress skipped
            exact ih.members _ _ _ _ _ (by dsimp only at this; omega) k

lemma elements_succ : ∀ d expecting fields total i first c,
    4 * c.rest.length + Shape.fieldsNeed fields ≤ f + 1 → ∀ k,
      readElements (f + 1 + k) d expecting fields total i first c =
        readElements (f + 1) d expecting fields total i first c := by
  intro d expecting fields total i first c within k
  rw [Nat.add_right_comm]
  cases fields with
  | nil => simp only [readElements]
  | cons field more =>
    obtain ⟨name, shape⟩ := field
    simp only [Shape.fieldsNeed] at within
    simp only [readElements]
    split
    · rfl
    · next c₁ start =>
      -- a missing field takes its default without moving
      have := nextElementStart_progress start
      split
      · rw [ih.elements _ _ _ _ _ _ _ (by omega) k]
      · rfl
    · next c₁ start =>
      have := nextElementStart_progress start
      rw [ih.shaped _ _ _ (by omega) k]
      split
      · rfl
      · next v c₂ value =>
        have := (readProgress f).shaped _ _ _ _ value
        rw [ih.elements _ _ _ _ _ _ _ (by dsimp only at this; omega) k]

lemma tagMembers_succ : ∀ d tag names first seen acc c, 4 * c.rest.length + 1 ≤ f + 1 → ∀ k,
    readTagMembers (f + 1 + k) d tag names first seen acc c =
      readTagMembers (f + 1) d tag names first seen acc c := by
  intro d tag names first seen acc c within k
  rw [Nat.add_right_comm]
  simp only [readTagMembers]
  split
  · rfl
  · rfl
  · next c₁ start =>
    rw [key_settles start (by omega) k]
    split
    · rfl
    · next name c₂ key =>
      split
      · -- the tag: its variant name
        split
        · rfl
        · split
          · rfl
          · next u c₃ colon =>
            have := key_progress start rfl key colon
            rw [readVariantName_settles (by omega) k]
            split
            · rfl
            · next c₄ variant =>
              have := readVariantName_progress variant
              exact ih.tagMembers _ _ _ _ _ _ _ (by omega) k
            · next c₄ _ variant =>
              have := readVariantName_progress variant
              exact ih.tagMembers _ _ _ _ _ _ _ (by omega) k
      · -- another member, kept as content
        split
        · rfl
        · next u c₃ colon =>
          have := key_progress start rfl key colon
          rw [ih.any _ _ (by omega) k]
          split
          · rfl
          · next v c₄ value =>
            have := (readProgress f).any _ _ _ value
            exact ih.tagMembers _ _ _ _ _ _ _ (by dsimp only at this; omega) k

end ReadSettles

theorem readSettles : ∀ f, ReadSettles f
  | 0 =>
    -- nothing fits in no rounds but a record given as a list with no fields
    { any := fun _ _ within => by omega
      anyItems := fun _ _ _ _ within => by omega
      anyMembers := fun _ _ _ _ within => by omega
      shaped := fun _ s _ within => by have := s.one_le_need; omega
      items := fun _ _ _ _ _ within => by omega
      entries := fun _ item _ _ _ within => by have := item.one_le_need; omega
      members := fun _ _ _ _ _ within => by omega
      elements := fun _ _ fields _ _ _ _ within k => by
        rw [Shape.fieldsNeed_eq_zero fields (by omega), Nat.zero_add]
        cases k <;> simp only [readElements]
      tagMembers := fun _ _ _ _ _ _ _ within => by omega }
  | f + 1 =>
    have ih := readSettles f
    { any := ih.any_succ
      anyItems := ih.anyItems_succ
      anyMembers := ih.anyMembers_succ
      shaped := ih.shaped_succ
      items := ih.items_succ
      entries := ih.entries_succ
      members := ih.members_succ
      elements := ih.elements_succ
      tagMembers := ih.tagMembers_succ }

/-- Reading a text through a shape that needs at most sixty-four rounds beyond
its characters: the bound `Shape.readText` passes never binds. -/
theorem readShaped_fuelSuffices {s : Shape} (fits : s.need ≤ 64) (text : String) (k : Nat) :
    readShaped (4 * (text.length + 16) + k) 0 s (Cursor.start text) =
      readShaped (4 * (text.length + 16)) 0 s (Cursor.start text) :=
  (readSettles _).shaped 0 s _ (by simp only [Cursor.start, String.length_toList]; omega) k

end Json

namespace Tbls

open Json

/-- The shape of a tbls document needs seventeen rounds beyond its characters. -/
theorem document_need : DocumentShape.document.need = 17 := by decide

/-- Reading a tbls document never runs out of its bound. -/
theorem fuelSuffices (text : String) (k : Nat) :
    readShaped (4 * (text.length + 16) + k) 0 DocumentShape.document (Cursor.start text) =
      readShaped (4 * (text.length + 16)) 0 DocumentShape.document (Cursor.start text) :=
  readShaped_fuelSuffices (by rw [document_need]; omega) text k

end Tbls

end Schemata
