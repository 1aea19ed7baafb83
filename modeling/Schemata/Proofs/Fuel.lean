import Mathlib
import Schemata.Text.Source

/-!
# Fuel that suffices

The loops of the readers carry an explicit bound on their rounds, their *fuel*,
and each reader starts its loops with a bound computed from its input: the
number of characters or tokens, or a multiple of it. A bound is harmless when
it never stops a loop that would have gone on, that is, when from some amount
of fuel on the result no longer changes. `SettlesWithin need F` says this of a
fuel-indexed family `F`: at every argument `x`, fuel beyond `need x` gives what
`need x` gives.

`SettlesWithin.of_round` is the run lemma every loop goes through. It asks for
one round only: with at least `need x` fuel, a round at `x` gives the same
result under more fuel provided the rounds it hands on to do, and it hands on
only arguments `y` whose need is covered by the fuel left. For a loop over a
text or a token array the need is the number of characters or tokens still
ahead, so the round's obligation is the loop's progress: every round that
goes on consumes something.
-/

namespace Schemata

/-- From `need x` on, more fuel no longer changes what `F` gives at `x`. -/
def SettlesWithin {α β : Type} (need : α → Nat) (F : Nat → α → β) : Prop :=
  ∀ x f, need x ≤ f → ∀ k, F (f + k) x = F f x

namespace SettlesWithin

variable {α β : Type} {need : α → Nat} {F : Nat → α → β}

/-- A family settles once every round settles given that the rounds after it do. -/
theorem of_round (zero : ∀ x, need x = 0 → ∀ k, F k x = F 0 x)
    (round : ∀ f x, need x ≤ f + 1 → (∀ y, need y ≤ f → ∀ k, F (f + k) y = F f y) →
      ∀ k, F (f + 1 + k) x = F (f + 1) x) :
    SettlesWithin need F := by
  intro x f
  -- the fuel left bounds the need of every argument a later round sees
  induction f generalizing x with
  | zero => intro h k; simpa using zero x (by omega) k
  | succ f ih => exact fun h => round f x h ih

/-- With fuel covering the need, any larger fuel gives the same result. -/
theorem eq_of_le (settles : SettlesWithin need F) {x : α} {f g : Nat} (enough : need x ≤ f)
    (more : f ≤ g) : F g x = F f x := by
  obtain ⟨k, rfl⟩ := Nat.exists_eq_add_of_le more
  exact settles x f enough k

end SettlesWithin

/-! ## Weighted counts of what is left

The parsers count each token left `w` times, so the bound a position is
within is `w * (S - pos) + c` for `S` tokens. -/

/-- One token fewer left takes `w` off the count. -/
lemma weighted_left_succ {w S pos : Nat} (inside : pos < S) :
    w * (S - pos) = w * (S - (pos + 1)) + w := by
  rw [show S - pos = S - (pos + 1) + 1 by omega, Nat.mul_succ]

/-- A later position is within every bound an earlier one is. -/
lemma weighted_le_of_le {w c n S pos pos' : Nat} (moved : pos ≤ pos')
    (within : w * (S - pos) + c ≤ n) : w * (S - pos') + c ≤ n := by
  have := Nat.mul_le_mul_left w (show S - pos' ≤ S - pos by omega)
  omega

namespace SourceText

variable {t : SourceText} {i : Nat}

lemma lt_size_of_get? {c : Char} (h : t.get? i = some c) : i < t.size :=
  (Array.getElem?_eq_some_iff.mp h).1

lemma get?_eq_none (h : t.size ≤ i) : t.get? i = none := by
  simp only [get?]
  exact Array.getElem?_eq_none h

end SourceText

end Schemata
