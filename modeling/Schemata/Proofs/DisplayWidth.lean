import Mathlib
import Schemata.Text.Unicode.Width

/-!
# Display width is never negative and adds up across blanks

`widthAndContext` reads a text from its end: each character adds its columns, given the context
that the characters after it set up, and leaves a context for the character before it. Some
characters take columns back: a Khmer coeng sign the column of the consonant after it, a
Tifinagh consonant the column of the joiner after it, and a regional indicator one of a ZWJ
sequence begun by indicators. They never take back more than was counted.

* `owed_le_widthAndContext`: the columns that the context of a text may still give back
  (`Context.owed`) are at most the columns counted for it. So the width of every text is at
  least zero (`widthAndContext_nonneg`).
* A blank takes one column whatever stands after it, and leaves the plain context, the one the
  end of a text leaves. So the width of a text cut at a blank is the widths of the two parts
  and one (`textWidth_append_blank`), and blanks in front add one column each
  (`textWidth_blanks_append`).
-/

namespace Schemata

namespace Unicode

/-! ## Columns that a context may take back -/

/-- The columns that the character before a ligature may take back from it. -/
def Ligature.owed : Ligature → Nat
  | .khmerLetter => 1
  | .tifinaghJoiner => 1
  | _ => 0

@[simp] lemma Ligature.owed_join (l : Ligature) : l.join.owed = l.owed := by
  cases l <;> rfl

namespace Context

/-- The columns that the character before may take back from those already counted: one after
a Khmer consonant or a Tifinagh joiner, and one in a ZWJ sequence after a regional indicator
or an odd number of them. -/
def owed : Context → Nat
  | .ligature l _ => l.owed
  | .regionalZwj => 1
  | .regionalPairsZwj true => 1
  | _ => 0

@[simp] lemma owed_plain : plain.owed = 0 := rfl

@[simp] lemma owed_lineFeed : lineFeed.owed = 0 := rfl

@[simp] lemma owed_emoji : emoji.owed = 0 := rfl

lemma owed_withSelector (p : Presentation) (ctx : Context) :
    (ctx.withSelector p).owed ≤ ctx.owed := by
  cases ctx <;> simp only [withSelector] <;> try split
  all_goals simp [owed]

lemma owed_withoutSelector (ctx : Context) : ctx.withoutSelector.owed ≤ ctx.owed := by
  cases ctx <;> simp [withoutSelector, owed]

lemma owed_dropSelector (b : Prop) [Decidable b] (ctx : Context) :
    (if b then ctx.withoutSelector else ctx).owed ≤ ctx.owed := by
  split
  · exact owed_withoutSelector ctx
  · exact le_refl _

end Context

/-! ## One character -/

lemma baseWidth_nonneg (c : Char) : 0 ≤ baseWidth c := by
  unfold baseWidth
  split_ifs <;> omega

/-- What holds of both branches holds of the `if`. -/
lemma ite_of_both {α : Type} {P : α → Prop} {b : Prop} [Decidable b] {x y : α} (hx : P x)
    (hy : P y) : P (if b then x else y) := by
  split <;> assumption

lemma owed_classify (c : Char) : ((classify c).2.owed : Int) ≤ (classify c).1 := by
  unfold classify
  dsimp only
  -- `split_ifs` would simplify every condition with the others; walk the branches instead
  repeat' apply ite_of_both (P := fun p : Int × Context => (p.2.owed : Int) ≤ p.1)
  all_goals simp only [Context.owed, Ligature.owed, Nat.cast_zero, Nat.cast_one]
  all_goals first | omega | exact baseWidth_nonneg c

lemma owed_throughLigature {c : Char} {next ctx : Context}
    (h : throughLigature c next = some ctx) : ctx.owed ≤ next.owed := by
  unfold throughLigature at h
  split at h
  · split_ifs at h <;> cases h <;> simp [Context.owed]
  · cases h

lemma owed_joined {c : Char} {next : Context} {w : Int} {ctx : Context}
    (h : joined c next = some (w, ctx)) : (ctx.owed : Int) ≤ next.owed + w := by
  unfold joined at h
  split at h <;> dsimp only at h <;> (try split_ifs at h) <;> cases h <;>
    simp_all [Context.owed, Ligature.owed]

/-- **Step lemma.** A character leaves a context that owes no more than the context after it
owed and the columns it adds. -/
lemma owed_step (c : Char) (next : Context) :
    ((step c next).2.owed : Int) ≤ next.owed + (step c next).1 := by
  unfold step
  dsimp only
  -- the contexts left once a selector that `c` does not take is dropped
  generalize h₁ : (if (next.presentation? == some Presentation.emoji) = true then
    next.withoutSelector else next) = next₁
  generalize h₂ : (if (next₁.presentation? == some Presentation.text) = true then
    next₁.withoutSelector else next₁) = next₂
  generalize h₃ : (if (next₂.presentation? == some Presentation.wideQuote) = true then
    next₂.withoutSelector else next₂) = next₃
  have le₁ : next₁.owed ≤ next.owed := h₁ ▸ Context.owed_dropSelector _ next
  have le₂ : next₂.owed ≤ next₁.owed := h₂ ▸ Context.owed_dropSelector _ next₁
  have le₃ : next₃.owed ≤ next₂.owed := h₃ ▸ Context.owed_dropSelector _ next₂
  repeat' apply ite_of_both (P := fun p : Int × Context => (p.2.owed : Int) ≤ next.owed + p.1)
  · -- a character shown as emoji by the selector after it
    dsimp only
    split <;> simp only [Context.owed_emoji] <;> omega
  -- a line feed, a carriage return before one, another control or ASCII character
  · simp only [Context.owed_lineFeed]; omega
  · simp only [Context.owed_plain]; omega
  · simp only [Context.owed_plain]; omega
  -- the emoji and text selectors
  · have := Context.owed_withSelector .emoji next₁
    dsimp only
    omega
  · have := Context.owed_withSelector .text next₁
    dsimp only
    omega
  cases through : throughLigature c next₁ with
  | some ctx =>
    have := owed_throughLigature through
    dsimp only
    omega
  | none =>
    dsimp only
    repeat' apply ite_of_both (P := fun p : Int × Context => (p.2.owed : Int) ≤ next.owed + p.1)
    · have := Context.owed_withSelector .wideQuote next₁
      dsimp only
      omega
    -- a text-style or a wide quotation mark
    · simp only [Context.owed_plain]; omega
    · simp only [Context.owed_plain]; omega
    -- a character that joins the sequence after it, or stands alone
    cases join : joined c next₃ with
    | some r =>
      have := owed_joined join
      dsimp only [Option.getD]
      omega
    | none =>
      have := owed_classify c
      dsimp only [Option.getD]
      omega

/-! ## Whole texts -/

@[simp] lemma widthAndContext_nil : widthAndContext [] = (0, .plain) := rfl

lemma widthAndContext_cons (c : Char) (cs : List Char) :
    widthAndContext (c :: cs) =
      ((widthAndContext cs).1 + (step c (widthAndContext cs).2).1,
        (step c (widthAndContext cs).2).2) := rfl

/-- **Run lemma.** What the context of a text may still take back was counted for it. -/
theorem owed_le_widthAndContext (cs : List Char) :
    ((widthAndContext cs).2.owed : Int) ≤ (widthAndContext cs).1 := by
  induction cs with
  | nil => rfl
  | cons c cs ih =>
    have := owed_step c (widthAndContext cs).2
    rw [widthAndContext_cons]
    dsimp only
    omega

theorem widthAndContext_nonneg (cs : List Char) : 0 ≤ (widthAndContext cs).1 :=
  le_trans (Int.natCast_nonneg _) (owed_le_widthAndContext cs)

/-! ## Blanks -/

lemma step_blank (next : Context) : step ' ' next = (1, .plain) := by
  have textual : hasEmojiStyle ' ' = false := by decide
  simp [step, textual]

lemma widthAndContext_blank_cons (rest : List Char) :
    widthAndContext (' ' :: rest) = ((widthAndContext rest).1 + 1, .plain) := by
  rw [widthAndContext_cons, step_blank]

/-- A text in front of one that leaves the plain context is read as if it stood alone. -/
lemma widthAndContext_append_of_plain (xs : List Char) {ys : List Char}
    (plain : (widthAndContext ys).2 = .plain) :
    widthAndContext (xs ++ ys) =
      ((widthAndContext xs).1 + (widthAndContext ys).1, (widthAndContext xs).2) := by
  induction xs with
  | nil => ext <;> simp [plain]
  | cons c xs ih =>
    rw [List.cons_append, widthAndContext_cons, ih, widthAndContext_cons]
    dsimp only
    congr 1
    omega

theorem widthAndContext_append_blank (xs rest : List Char) :
    widthAndContext (xs ++ ' ' :: rest) =
      ((widthAndContext xs).1 + 1 + (widthAndContext rest).1, (widthAndContext xs).2) := by
  rw [widthAndContext_append_of_plain xs (by rw [widthAndContext_blank_cons]),
    widthAndContext_blank_cons]
  congr 1
  omega

@[simp] lemma textWidth_empty : textWidth "" = 0 := rfl

/-- **Width adds up across a blank.** -/
theorem textWidth_append_blank (a b : String) :
    textWidth (a ++ " " ++ b) = textWidth a + 1 + textWidth b := by
  have front := widthAndContext_nonneg a.toList
  have back := widthAndContext_nonneg b.toList
  have chars : (a ++ " " ++ b).toList = a.toList ++ ' ' :: b.toList := by simp
  rw [textWidth, chars, widthAndContext_append_blank, textWidth, textWidth]
  omega

lemma widthAndContext_blanks_append (n : Nat) (rest : List Char) :
    (widthAndContext (List.replicate n ' ' ++ rest)).1 = (widthAndContext rest).1 + n := by
  induction n with
  | zero => simp
  | succ n ih =>
    rw [List.replicate_succ, List.cons_append, widthAndContext_blank_cons, ih]
    omega

/-- Blanks in front of a text add one column each. -/
theorem textWidth_blanks_append (n : Nat) (b : String) :
    textWidth (String.ofList (List.replicate n ' ') ++ b) = n + textWidth b := by
  have back := widthAndContext_nonneg b.toList
  rw [textWidth, String.toList_append, String.toList_ofList, widthAndContext_blanks_append,
    textWidth]
  omega

end Unicode

end Schemata
