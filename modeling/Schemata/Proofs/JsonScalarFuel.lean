import Mathlib
import Schemata.Proofs.Fuel
import Schemata.Json.Reader

/-!
# The scalar readers of JSON text run to completion

The readers of numbers, strings and literal words carry a bound on their
rounds, which the shaped reader passes down from its own. This module proves
two things of them, both measured in the characters a cursor has left.

* **Progress.** A reading that succeeds never hands back more text than it was
  given, and the readers that must consume their first character (numbers,
  variant names, the colon and the closing brackets) hand back strictly less.
  A reading that names a wrong type never succeeds.
* **Fuel.** From a bound of the characters left on (plus one or two for the
  readers that look at a character before they move), more fuel gives the same
  outcome. Each loop's proof is one round of `SettlesWithin.of_round` or a
  direct induction where the loop also carries its caller's bound.
-/

namespace Schemata

namespace Json

namespace Cursor

variable {c : Cursor} {ch : Char}

lemma length_pos_of_peek (h : c.peek? = some ch) : 0 < c.rest.length := by
  unfold peek? at h
  cases hr : c.rest with
  | nil => simp [hr] at h
  | cons x xs => simp

/-- Moving past a character that is there takes one off what is left. -/
lemma length_bump_of_peek (h : c.peek? = some ch) : c.bump.rest.length + 1 = c.rest.length := by
  unfold peek? at h
  unfold bump
  cases hr : c.rest with
  | nil => simp [hr] at h
  | cons x xs => simp only; split <;> simp

lemma length_bump_le (c : Cursor) : c.bump.rest.length ≤ c.rest.length := by
  unfold bump
  split
  · exact Nat.le_refl _
  · next x xs hr =>
    rw [hr]
    split <;> simp

lemma length_skipBlankFrom_le :
    ∀ cs line col, (skipBlankFrom cs line col).rest.length ≤ cs.length
  | [], _, _ => le_rfl
  | x :: xs, line, col => by
    simp only [skipBlankFrom]
    split
    · exact Nat.le_succ_of_le (length_skipBlankFrom_le xs _ _)
    · split
      · exact Nat.le_succ_of_le (length_skipBlankFrom_le xs _ _)
      · exact le_rfl

lemma length_skipBlank_le (c : Cursor) : c.skipBlank.rest.length ≤ c.rest.length :=
  length_skipBlankFrom_le _ _ _

@[simp] lemma failNext_ne_ok {α : Type} {f : SyntaxFault} {x : α × Cursor} :
    c.failNext f ≠ .ok x := nofun

@[simp] lemma failHere_ne_ok {α : Type} {f : SyntaxFault} {x : α × Cursor} :
    c.failHere f ≠ .ok x := nofun

@[simp] lemma failAt_ne_ok {α : Type} {p : Nat × Nat} {f : SyntaxFault} {x : α × Cursor} :
    c.failAt p f ≠ .ok x := nofun

@[simp] lemma failDecode_ne_ok {α : Type} {f : DecodeFault} {x : α × Cursor} :
    c.failDecode f ≠ .ok x := nofun

end Cursor

open Cursor

variable {c c' : Cursor}

/-! ## Progress -/

@[simp] lemma settle_eq_ok {α : Type} {r : Outcome α} {x : α × Cursor} :
    settle r = .ok x ↔ r = .ok x := by
  unfold settle
  rcases r with ⟨e, c⟩ | r
  · simp only
    split <;> simp
  · simp

lemma map_eq_ok {ε α β : Type} {g : α → β} {r : Except ε α} {y : β} (h : r.map g = .ok y) :
    ∃ a, r = .ok a ∧ g a = y := by
  cases r with
  | error e => cases h
  | ok a =>
    cases h
    exact ⟨a, rfl, rfl⟩

lemma closeWith_eq_ok {α : Type} {ret : Outcome α} {close : Cursor → Outcome Unit} {v : α}
    (h : closeWith ret close = .ok (v, c')) :
    ∃ c₀, ret = .ok (v, c₀) ∧ close c₀ = .ok ((), c') := by
  unfold closeWith at h
  rcases ret with ⟨e, c⟩ | ⟨w, c⟩
  · simp only at h
    split at h <;> cases h
  · simp only at h
    split at h
    · next u c'' hc =>
      cases h
      exact ⟨c, rfl, hc⟩
    · cases h

/-- A list or object read and closed ends past its closing bracket. -/
lemma settle_closeWith_progress {α : Type} {ret : Outcome α} {close : Cursor → Outcome Unit}
    {x : α × Cursor}
    (closing : ∀ {c c' : Cursor} {u : Unit}, close c = .ok (u, c') → c'.rest.length < c.rest.length)
    (h : settle (closeWith ret close) = .ok x) :
    ∃ c₀, ret = .ok (x.1, c₀) ∧ x.2.rest.length < c₀.rest.length := by
  obtain ⟨c₀, read, closed⟩ := closeWith_eq_ok (settle_eq_ok.mp h)
  exact ⟨c₀, read, closing closed⟩

lemma liftDecode_eq_ok {r : Except DecodeFault Json} {v : Json}
    (h : liftDecode c r = .ok (v, c')) : c' = c := by
  unfold liftDecode at h
  split at h
  · cases h
    rfl
  · simp at h

lemma objectColon_progress {u : Unit} (h : objectColon c = .ok (u, c')) :
    c'.rest.length < c.rest.length := by
  unfold objectColon at h
  dsimp only at h
  have blank := length_skipBlank_le c
  split at h
  · next hc =>
    cases h
    have := length_bump_of_peek hc
    omega
  all_goals simp at h

lemma endObject_progress {u : Unit} (h : endObject c = .ok (u, c')) :
    c'.rest.length < c.rest.length := by
  unfold endObject at h
  dsimp only at h
  have blank := length_skipBlank_le c
  split at h
  · next hc =>
    cases h
    have := length_bump_of_peek hc
    omega
  all_goals simp at h

lemma endList_progress {u : Unit} (h : endList c = .ok (u, c')) :
    c'.rest.length < c.rest.length := by
  unfold endList at h
  dsimp only at h
  have blank := length_skipBlank_le c
  split at h
  · next hc =>
    cases h
    have := length_bump_of_peek hc
    omega
  · split at h <;> simp at h
  all_goals simp at h

lemma expectWord_progress : ∀ (w : List Char) (c : Cursor) {u : Unit},
    expectWord w c = .ok (u, c') → c'.rest.length ≤ c.rest.length
  | [], c, _, h => by
    cases h
    exact le_rfl
  | x :: xs, c, _, h => by
    simp only [expectWord] at h
    split at h
    · simp at h
    · split at h
      · exact (expectWord_progress xs _ h).trans (length_bump_le c)
      · simp at h

/-- The start of a key leaves no more text, and a key that starts is at its
opening quote. -/
lemma nextKeyStart_progress {first b : Bool} (h : nextKeyStart first c = .ok (b, c')) :
    c'.rest.length ≤ c.rest.length ∧ (b = true → c'.peek? = some '"') := by
  unfold nextKeyStart at h
  dsimp only at h
  have blank := length_skipBlank_le c
  have blank' := length_skipBlank_le c.skipBlank.bump
  have bumped := length_bump_le c.skipBlank
  split at h
  · cases h
    exact ⟨blank, nofun⟩
  all_goals
    repeat' split at h
    all_goals first
      | (simp at h; done)
      | (cases h; exact ⟨by omega, fun _ => by assumption⟩)

lemma nextElementStart_progress {first b : Bool} (h : nextElementStart first c = .ok (b, c')) :
    c'.rest.length ≤ c.rest.length := by
  unfold nextElementStart at h
  dsimp only at h
  have blank := length_skipBlank_le c
  have blank' := length_skipBlank_le c.skipBlank.bump
  have bumped := length_bump_le c.skipBlank
  repeat' split at h
  all_goals first
    | (simp at h; done)
    | (cases h; omega)

lemma skipDigits_progress : ∀ f (c : Cursor), (skipDigits f c).rest.length ≤ c.rest.length
  | 0, _ => le_rfl
  | f + 1, c => by
    simp only [skipDigits]
    split
    · split
      · exact (skipDigits_progress f _).trans (length_bump_le c)
      · exact le_rfl
    · exact le_rfl

lemma readHex4_progress {n : Nat} (h : readHex4 c = .ok (n, c')) :
    c'.rest.length ≤ c.rest.length := by
  unfold readHex4 at h
  dsimp only at h
  split at h
  · simp at h
  · split at h
    · split at h
      · cases h
        have := length_bump_le c
        have := length_bump_le c.bump
        have := length_bump_le c.bump.bump
        have := length_bump_le c.bump.bump.bump
        omega
      · simp at h
    · simp at h

lemma readUnicodeEscape_progress {x : Char} (h : readUnicodeEscape c = .ok (x, c')) :
    c'.rest.length ≤ c.rest.length := by
  unfold readUnicodeEscape at h
  dsimp only at h
  split at h
  · simp at h
  · next n c₁ hex =>
    have first := readHex4_progress hex
    split at h
    · simp at h
    · split at h
      · cases h
        exact first
      · -- a leading surrogate reads its escaped partner after it
        split at h
        · simp at h
        · split at h
          · simp at h
          · split at h
            · simp at h
            · next m c₂ hex' =>
              split at h
              · simp only [Except.ok.injEq, Prod.mk.injEq] at h
                obtain ⟨-, rfl⟩ := h
                have := readHex4_progress hex'
                have := length_bump_le c₁
                have := length_bump_le c₁.bump
                omega
              · simp at h
          · simp at h
        · simp at h

lemma readString.go_progress : ∀ f (acc : String) (c : Cursor) {s : String},
    readString.go f acc c = .ok (s, c') → c'.rest.length ≤ c.rest.length
  | 0, _, c, _, h => by
    cases h
    exact le_rfl
  | f + 1, acc, c, _, h => by
    simp only [readString.go] at h
    have bumped := length_bump_le c
    have bumped' := length_bump_le c.bump
    split at h
    · simp at h
    · cases h
      exact bumped
    · split at h
      · simp at h
      · split at h
        · exact (go_progress f _ _ h).trans (by omega)
        · split at h
          · split at h
            · next x c₁ esc =>
              have := readUnicodeEscape_progress esc
              have := length_bump_le c.bump.bump
              exact (go_progress f _ _ h).trans (by omega)
            · simp at h
          · simp at h
    · split at h
      · simp at h
      · exact (go_progress f _ _ h).trans bumped

lemma readString_progress {f : Nat} {s : String} (h : readString f c = .ok (s, c')) :
    c'.rest.length ≤ c.rest.length :=
  readString.go_progress f "" c h

lemma skipString.go_progress : ∀ f (c : Cursor) {u : Unit},
    skipString.go f c = .ok (u, c') → c'.rest.length ≤ c.rest.length
  | 0, c, _, h => by
    cases h
    exact le_rfl
  | f + 1, c, _, h => by
    simp only [skipString.go] at h
    have bumped := length_bump_le c
    have bumped' := length_bump_le c.bump
    split at h
    · simp at h
    · cases h
      exact bumped
    · split at h
      · simp at h
      · split at h
        · exact (go_progress f _ h).trans (by omega)
        · split at h
          · split at h
            · next x c₁ hex =>
              have := readHex4_progress hex
              have := length_bump_le c.bump.bump
              exact (go_progress f _ h).trans (by omega)
            · simp at h
          · simp at h
    · split at h
      · simp at h
      · exact (go_progress f _ h).trans bumped

lemma skipString_progress {f : Nat} {u : Unit} (h : skipString f c = .ok (u, c')) :
    c'.rest.length ≤ c.rest.length :=
  skipString.go_progress f c h

lemma fromParts_progress {neg : Bool} {s : Nat} {e : Int} {n : Number}
    (h : fromParts neg s e c = .ok (n, c')) : c' = c := by
  unfold fromParts at h
  split at h
  · cases h
    rfl
  · simp at h

lemma readExponent.more_progress (neg : Bool) (s : Nat) (start : Int) (positive : Bool) :
    ∀ f e (c : Cursor) {n : Number}, readExponent.more neg s start positive f e c = .ok (n, c') →
      c'.rest.length ≤ c.rest.length
  | 0, e, c, _, h => by
    simp only [readExponent.more, finishExponent] at h
    rw [fromParts_progress h]
  | f + 1, e, c, _, h => by
    simp only [readExponent.more, finishExponent] at h
    have bumped := length_bump_le c
    split at h
    · split at h
      · split at h
        · split at h
          · simp at h
          · cases h
            exact (skipDigits_progress f _).trans bumped
        · exact (more_progress neg s start positive f _ _ h).trans bumped
      · rw [fromParts_progress h]
    · rw [fromParts_progress h]

lemma readExponent_progress {f : Nat} {neg : Bool} {s : Nat} {start : Int} {n : Number}
    (h : readExponent f neg s start c = .ok (n, c')) : c'.rest.length ≤ c.rest.length := by
  unfold readExponent at h
  dsimp only at h
  have := length_bump_le c
  have := length_bump_le c.bump
  have := length_bump_le c.bump.bump
  have := length_bump_le c.bump.bump.bump
  split at h
  · simp at h
  · split at h
    · simp at h
    · have digits := readExponent.more_progress neg s start _ f _ _ h
      -- the sign, if any, is moved past before the digits
      split at digits <;> (dsimp only at digits; omega)

lemma readFraction.after_progress {f : Nat} {neg : Bool} {start : Int} {s : Nat} {k : Int}
    {n : Number} (h : readFraction.after f neg start s k c = .ok (n, c')) :
    c'.rest.length ≤ c.rest.length := by
  unfold readFraction.after at h
  split at h
  · split at h <;> simp at h
  · split at h
    · exact readExponent_progress h
    · exact readExponent_progress h
    · rw [fromParts_progress h]

lemma readFraction.digits_progress (F : Nat) (neg : Bool) (start : Int) :
    ∀ f s k (c : Cursor) {n : Number}, readFraction.digits F neg start f s k c = .ok (n, c') →
      c'.rest.length ≤ c.rest.length
  | 0, s, k, c, _, h => by
    simp only [readFraction.digits] at h
    exact readFraction.after_progress h
  | f + 1, s, k, c, _, h => by
    simp only [readFraction.digits] at h
    have skipped := skipDigits_progress f c
    split at h
    · split at h
      · split at h
        · split at h
          · exact (readExponent_progress h).trans skipped
          · exact (readExponent_progress h).trans skipped
          · rw [fromParts_progress h]
            exact skipped
        · exact (digits_progress F neg start f _ _ _ h).trans (length_bump_le c)
      · exact readFraction.after_progress h
    · exact readFraction.after_progress h

lemma readFraction_progress {f : Nat} {neg : Bool} {s : Nat} {start : Int} {n : Number}
    (h : readFraction f neg s start c = .ok (n, c')) : c'.rest.length ≤ c.rest.length :=
  (readFraction.digits_progress f neg start f s 0 c.bump h).trans (length_bump_le c)

lemma readLongInteger.go_progress (neg : Bool) (s : Nat) :
    ∀ f e (c : Cursor) {n : Number}, readLongInteger.go neg s f e c = .ok (n, c') →
      c'.rest.length ≤ c.rest.length
  | 0, e, c, _, h => by
    simp only [readLongInteger.go] at h
    rw [fromParts_progress h]
  | f + 1, e, c, _, h => by
    simp only [readLongInteger.go] at h
    split at h
    · exact readFraction_progress h
    · exact readExponent_progress h
    · exact readExponent_progress h
    · split at h
      · exact (go_progress neg s f _ _ h).trans (length_bump_le c)
      · rw [fromParts_progress h]
    · rw [fromParts_progress h]

lemma readNumberTail_progress {f : Nat} {neg : Bool} {s : Nat} {n : Number}
    (h : readNumberTail f neg s c = .ok (n, c')) : c'.rest.length ≤ c.rest.length := by
  unfold readNumberTail at h
  split at h
  · exact readFraction_progress h
  · exact readExponent_progress h
  · exact readExponent_progress h
  · repeat' split at h
    all_goals (cases h; exact Nat.le_refl _)

lemma readNumber.go_progress (neg : Bool) :
    ∀ f s (c : Cursor) {n : Number}, readNumber.go neg f s c = .ok (n, c') →
      c'.rest.length ≤ c.rest.length
  | 0, s, c, _, h => by
    simp only [readNumber.go] at h
    exact readNumberTail_progress h
  | f + 1, s, c, _, h => by
    simp only [readNumber.go] at h
    split at h
    · split at h
      · split at h
        · exact readLongInteger.go_progress neg s f 0 c h
        · exact (go_progress neg f _ _ h).trans (length_bump_le c)
      · exact readNumberTail_progress h
    · exact readNumberTail_progress h

/-- A number is read past at least its first digit. -/
lemma readNumber_progress {f : Nat} {neg : Bool} {n : Number}
    (h : readNumber f neg c = .ok (n, c')) : c'.rest.length < c.rest.length := by
  unfold readNumber at h
  dsimp only at h
  split at h
  · simp at h
  · next hc =>
    have := length_bump_of_peek hc
    split at h
    · split at h
      · simp at h
      · have := readNumberTail_progress h
        omega
    · have := readNumberTail_progress h
      omega
  · next d _ hc =>
    have := length_bump_of_peek hc
    split at h
    · simp at h
    · have := readNumber.go_progress neg f _ _ h
      omega

/-- A number is skipped past at least its first digit. -/
lemma skipNumber_progress {f : Nat} {u : Unit} (h : skipNumber f c = .ok (u, c')) :
    c'.rest.length < c.rest.length := by
  cases peeked : c.peek? with
  | none => simp [skipNumber, peeked] at h
  | some ch =>
    have moved := length_bump_of_peek peeked
    suffices c'.rest.length ≤ c.bump.rest.length by omega
    unfold skipNumber at h
    dsimp only at h
    repeat' split at h
    all_goals first
      | (simp at h; done)
      | skip
    -- every way through moves past the first character, then past characters and
    -- digits, and nothing else
    all_goals
      simp only [Except.ok.injEq, Prod.mk.injEq] at h
      obtain ⟨-, rfl⟩ := h
      repeat' first
        | exact Nat.le_refl _
        | refine Nat.le_trans (skipDigits_progress _ _) ?_
        | refine Nat.le_trans (length_bump_le _) ?_

/-- Naming what stands where another type was wanted is always a fault. -/
lemma invalidTypeAt_ne_ok {f : Nat} {expecting : String} {x : Json × Cursor} :
    invalidTypeAt f expecting c ≠ .ok x := by
  intro h
  unfold invalidTypeAt at h
  dsimp only at h
  repeat' split at h
  all_goals simp at h

/-- A variant name is read past at least its opening quote. -/
lemma readVariantName_progress {f : Nat} {variants : List String} {v : Json}
    (h : readVariantName f variants c = .ok (v, c')) : c'.rest.length < c.rest.length := by
  unfold readVariantName at h
  dsimp only at h
  have blank := length_skipBlank_le c
  split at h
  · simp at h
  · next hc =>
    have := length_bump_of_peek hc
    split at h
    · next s c₁ read =>
      have := readString_progress read
      split at h
      · cases h
        omega
      · simp at h
    · simp at h
  · exact absurd h invalidTypeAt_ne_ok

/-! ## Fuel -/

theorem skipDigits_settles : SettlesWithin (fun c : Cursor => c.rest.length) skipDigits := by
  refine SettlesWithin.of_round (fun c ended k => ?_) (fun f c _ later k => ?_)
  · have : c.peek? = none := by simp [peek?, List.length_eq_zero_iff.mp ended]
    cases k <;> simp [skipDigits, this]
  · rw [Nat.add_right_comm]
    simp only [skipDigits]
    split
    · next d hd =>
      split
      · exact later _ (by have := length_bump_of_peek hd; omega) k
      · rfl
    · rfl

theorem skipDigits_eq_of_le {f : Nat} (enough : c.rest.length ≤ f) (k : Nat) :
    skipDigits (f + k) c = skipDigits f c :=
  skipDigits_settles c f enough k

theorem readString.go_settles :
    SettlesWithin (fun x : String × Cursor => x.2.rest.length + 1)
      (fun f x => readString.go f x.1 x.2) := by
  refine SettlesWithin.of_round (fun x ended => by omega) (fun f ⟨acc, c⟩ within later k => ?_)
  dsimp only at within
  rw [Nat.add_right_comm]
  simp only [readString.go]
  split
  · rfl
  · rfl
  · next backslash =>
    have := length_bump_of_peek backslash
    split
    · rfl
    · next e escaped =>
      have := length_bump_of_peek escaped
      split
      · exact later (_, c.bump.bump) (by dsimp only; omega) k
      · split
        · split
          · next x c₁ esc =>
            have := readUnicodeEscape_progress esc
            have := length_bump_le c.bump.bump
            exact later (_, c₁) (by dsimp only; omega) k
          · rfl
        · rfl
  · next ch _ _ plain =>
    have := length_bump_of_peek plain
    split
    · rfl
    · exact later (_, c.bump) (by dsimp only; omega) k

theorem readString_settles {f : Nat} (enough : c.rest.length + 1 ≤ f) (k : Nat) :
    readString (f + k) c = readString f c :=
  readString.go_settles ("", c) f enough k

theorem skipString.go_settles :
    SettlesWithin (fun c : Cursor => c.rest.length + 1) skipString.go := by
  refine SettlesWithin.of_round (fun x ended => by omega) (fun f c _ later k => ?_)
  rw [Nat.add_right_comm]
  simp only [skipString.go]
  split
  · rfl
  · rfl
  · next backslash =>
    have := length_bump_of_peek backslash
    split
    · rfl
    · next e escaped =>
      have := length_bump_of_peek escaped
      split
      · exact later c.bump.bump (by omega) k
      · split
        · split
          · next x c₁ hex =>
            have := readHex4_progress hex
            have := length_bump_le c.bump.bump
            exact later c₁ (by omega) k
          · rfl
        · rfl
  · next ch _ _ plain =>
    have := length_bump_of_peek plain
    split
    · rfl
    · exact later c.bump (by omega) k

theorem skipString_settles {f : Nat} (enough : c.rest.length + 1 ≤ f) (k : Nat) :
    skipString (f + k) c = skipString f c :=
  skipString.go_settles c f enough k

theorem readExponent.more_settles (neg : Bool) (s : Nat) (start : Int) (positive : Bool) :
    SettlesWithin (fun x : Nat × Cursor => x.2.rest.length)
      (fun f x => readExponent.more neg s start positive f x.1 x.2) := by
  refine SettlesWithin.of_round (fun ⟨e, c⟩ ended k => ?_) (fun f ⟨e, c⟩ within later k => ?_)
  · simp only at ended
    have : c.peek? = none := by simp [peek?, List.length_eq_zero_iff.mp ended]
    cases k <;> simp [readExponent.more, this]
  · dsimp only at within
    rw [Nat.add_right_comm]
    simp only [readExponent.more]
    split
    · next d digit =>
      have := length_bump_of_peek digit
      split
      · split
        · split
          · rfl
          · rw [skipDigits_eq_of_le (by omega) k]
        · exact later (_, c.bump) (by dsimp only; omega) k
      · rfl
    · rfl

theorem readExponent.more_eq_of_le {neg : Bool} {s : Nat} {start : Int} {positive : Bool}
    {f e : Nat} (enough : c.rest.length ≤ f) (k : Nat) :
    readExponent.more neg s start positive (f + k) e c = readExponent.more neg s start positive f e c :=
  readExponent.more_settles neg s start positive (e, c) f enough k

theorem readExponent_settles {f : Nat} {neg : Bool} {s : Nat} {start : Int}
    (enough : c.rest.length ≤ f) (k : Nat) :
    readExponent (f + k) neg s start c = readExponent f neg s start c := by
  unfold readExponent
  dsimp only
  have := length_bump_le c
  have := length_bump_le c.bump
  have := length_bump_le c.bump.bump
  split
  · rfl
  · split
    · rfl
    · refine readExponent.more_eq_of_le ?_ k
      -- the sign, if any, is moved past before the digits
      have := length_bump_le c.bump.bump.bump
      split <;> (dsimp only; omega)

theorem readFraction.after_settles {F : Nat} {neg : Bool} {start : Int} {s : Nat} {kk : Int}
    (enough : c.rest.length ≤ F) (k : Nat) :
    readFraction.after (F + k) neg start s kk c = readFraction.after F neg start s kk c := by
  unfold readFraction.after
  split
  · rfl
  · split
    · rw [readExponent_settles enough k]
    · rw [readExponent_settles enough k]
    · rfl

/-- The fraction's digit loop also hands its caller's bound on to the exponent,
so both bounds grow together. -/
theorem readFraction.digits_settles (neg : Bool) (start : Int) :
    ∀ f F s kk (c : Cursor), c.rest.length + 1 ≤ f → c.rest.length ≤ F → ∀ k,
      readFraction.digits (F + k) neg start (f + k) s kk c =
        readFraction.digits F neg start f s kk c
  | 0, _, _, _, _, enough, _, _ => by omega
  | f + 1, F, s, kk, c, enough, outer, k => by
    rw [Nat.add_right_comm]
    simp only [readFraction.digits]
    split
    · next d digit =>
      have := length_bump_of_peek digit
      have skipped := skipDigits_progress f c
      split
      · split
        · rw [skipDigits_eq_of_le (by omega) k]
          split
          · rw [readExponent_settles (by omega) k]
          · rw [readExponent_settles (by omega) k]
          · rfl
        · exact digits_settles neg start f F _ _ _ (by omega) (by omega) k
      · exact readFraction.after_settles outer k
    · exact readFraction.after_settles outer k

theorem readFraction_settles {f : Nat} {neg : Bool} {s : Nat} {start : Int}
    (enough : c.rest.length + 1 ≤ f) (k : Nat) :
    readFraction (f + k) neg s start c = readFraction f neg s start c := by
  have := length_bump_le c
  exact readFraction.digits_settles neg start f f s 0 c.bump (by omega) (by omega) k

theorem readLongInteger.go_settles (neg : Bool) (s : Nat) :
    SettlesWithin (fun x : Int × Cursor => x.2.rest.length + 2)
      (fun f x => readLongInteger.go neg s f x.1 x.2) := by
  refine SettlesWithin.of_round (fun x ended => by omega) (fun f ⟨e, c⟩ within later k => ?_)
  dsimp only at within
  rw [Nat.add_right_comm]
  simp only [readLongInteger.go]
  split
  · rw [readFraction_settles (by omega) k]
  · rw [readExponent_settles (by omega) k]
  · rw [readExponent_settles (by omega) k]
  · next d _ _ _ digit =>
    have := length_bump_of_peek digit
    split
    · exact later (_, c.bump) (by dsimp only; omega) k
    · rfl
  · rfl

theorem readNumberTail_settles {f : Nat} {neg : Bool} {s : Nat}
    (enough : c.rest.length + 1 ≤ f) (k : Nat) :
    readNumberTail (f + k) neg s c = readNumberTail f neg s c := by
  unfold readNumberTail
  split
  · rw [readFraction_settles enough k]
  · rw [readExponent_settles (by omega) k]
  · rw [readExponent_settles (by omega) k]
  · rfl

theorem readNumber.go_settles (neg : Bool) :
    SettlesWithin (fun x : Nat × Cursor => x.2.rest.length + 3)
      (fun f x => readNumber.go neg f x.1 x.2) := by
  refine SettlesWithin.of_round (fun x ended => by omega) (fun f ⟨s, c⟩ within later k => ?_)
  dsimp only at within
  rw [Nat.add_right_comm]
  simp only [readNumber.go]
  split
  · next d digit =>
    have := length_bump_of_peek digit
    split
    · split
      · exact readLongInteger.go_settles neg s (0, c) f (by dsimp only; omega) k
      · exact later (_, c.bump) (by dsimp only; omega) k
    · rw [readNumberTail_settles (by omega) k]
  · rw [readNumberTail_settles (by omega) k]

theorem readNumber_settles {f : Nat} {neg : Bool} (enough : c.rest.length + 2 ≤ f) (k : Nat) :
    readNumber (f + k) neg c = readNumber f neg c := by
  unfold readNumber
  dsimp only
  split
  · rfl
  · next zero =>
    have := length_bump_of_peek zero
    split
    · split
      · rfl
      · rw [readNumberTail_settles (by omega) k]
    · rw [readNumberTail_settles (by omega) k]
  · next d _ digit =>
    have := length_bump_of_peek digit
    split
    · rfl
    · exact readNumber.go_settles neg (_, c.bump) f (by dsimp only; omega) k

theorem skipNumber_settles {f : Nat} (enough : c.rest.length ≤ f) (k : Nat) :
    skipNumber (f + k) c = skipNumber f c := by
  unfold skipNumber
  dsimp only
  -- every digit run starts behind `c`, past characters, digits or a sign, where
  -- the digit loop settles
  simp (disch := repeat' first
    | exact enough
    | refine Nat.le_trans (skipDigits_progress _ _) ?_
    | refine Nat.le_trans (length_bump_le _) ?_
    | split) only [skipDigits_eq_of_le]

theorem invalidTypeAt_settles {f : Nat} {expecting : String} (enough : c.rest.length + 2 ≤ f)
    (k : Nat) : invalidTypeAt (f + k) expecting c = invalidTypeAt f expecting c := by
  unfold invalidTypeAt
  dsimp only
  have := length_bump_le c
  split
  · rfl
  · rfl
  · rfl
  · rw [readNumber_settles (by omega) k]
  · rw [readString_settles (by omega) k]
  · rfl
  · rfl
  · split
    · rw [readNumber_settles enough k]
    · rfl
  · rfl

theorem readVariantName_settles {f : Nat} {variants : List String}
    (enough : c.rest.length + 2 ≤ f) (k : Nat) :
    readVariantName (f + k) variants c = readVariantName f variants c := by
  unfold readVariantName
  dsimp only
  have := length_skipBlank_le c
  have := length_bump_le c.skipBlank
  split
  · rfl
  · rw [readString_settles (by omega) k]
  · exact invalidTypeAt_settles (by omega) k

end Json

end Schemata
