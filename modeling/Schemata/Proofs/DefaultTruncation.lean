import Mathlib
import Schemata.Proofs.DisplayWidth
import Schemata.Render.Summary

/-!
# How wide a cut default is

`SummaryStyle.truncate` keeps a text that fits in `width` columns and cuts any other one,
marking the cut with `…`. The test for fitting measures the whole text by `textWidth`, but the
loop that cuts (`fitPrefix`) counts each character by its own width, a control character as no
column at all. The two measures part on texts that hold controls or emoji sequences, and there
the cut text can be wider than `width`.

* `fitPrefix_longest`, `truncate_longest_prefix`: a cut keeps the longest prefix whose
  characters, each counted alone, leave one column of `width` for the mark.
* `truncate_within_width`: where the two measures agree on every cut (`WidthsAddUp`: no
  control character, no sequence that changes widths), a cut text is at most `width - 1`
  columns wide before the mark. Every printable ASCII text meets that condition
  (`widthsAddUp_printable_cuts`).
* `truncate_printable`: on printable ASCII a text that does not fit keeps its first
  `width - 1` characters, and the result is `width - 1` columns wide before the mark.
* `truncate_tabs_overflow`: two tabs count as no column for the loop and as two for the text,
  so `"\t\ta"` cut to one column is `"\t\t…"`, three columns wide.

The width of `…` itself is read from the Unicode tables, which no proof here evaluates; it is
one column, so a cut that meets the condition is at most `width` columns wide.
-/

namespace Schemata

namespace Unicode

/-- A printable ASCII character, `U+0020` to `U+007E`. -/
def IsPrintableAscii (c : Char) : Prop := 0x20 ≤ c.toNat ∧ c.toNat < 0x7F

lemma charWidth?_of_isPrintableAscii {c : Char} (printable : IsPrintableAscii c) :
    charWidth? c = some 1 := by
  simp [charWidth?, Nat.not_lt.mpr printable.1, printable.2]

/-- A character up to `U+00A0` other than a line end takes one column and leaves the plain
context, unless an emoji selector after it gives it its emoji form. -/
lemma step_narrow {c : Char} (small : c.toNat ≤ 0xA0) (notLF : c.toNat ≠ 0x0A)
    (notCR : c.toNat ≠ 0x0D) {next : Context}
    (unstyled : hasEmojiStyle c = false ∨ next.presentation? ≠ some .emoji) :
    step c next = (1, .plain) := by
  have noStyle : (next.presentation? == some .emoji && hasEmojiStyle c) = false := by
    rcases unstyled with textual | noSelector
    · simp [textual]
    · simp [noSelector]
  unfold step
  simp [noStyle, small, notLF, notCR]

/-- Printable ASCII in front of a text whose first character waits for no emoji selector adds
one column a character. -/
lemma widthAndContext_printable_append (ys : List Char)
    (unstyled : (widthAndContext ys).2.presentation? ≠ some .emoji) :
    ∀ pre : List Char, (∀ c ∈ pre, IsPrintableAscii c) →
      (widthAndContext (pre ++ ys)).1 = pre.length + (widthAndContext ys).1 ∧
        (widthAndContext (pre ++ ys)).2.presentation? ≠ some .emoji
  | [], _ => ⟨by simp, unstyled⟩
  | c :: pre, printable => by
    obtain ⟨columns, rest⟩ :=
      widthAndContext_printable_append ys unstyled pre fun d hd => printable d (by simp [hd])
    have ascii := printable c (by simp)
    have one : step c (widthAndContext (pre ++ ys)).2 = (1, .plain) :=
      step_narrow (by have := ascii.2; omega) (by have := ascii.1; omega)
        (by have := ascii.1; omega) (.inr rest)
    rw [List.cons_append, widthAndContext_cons, one, columns]
    refine ⟨by simp; omega, by simp [Context.presentation?]⟩

/-- Printable ASCII is as wide as it is long. -/
lemma textWidth_printable {cs : List Char} (printable : ∀ c ∈ cs, IsPrintableAscii c) :
    textWidth (String.ofList cs) = cs.length := by
  have := (widthAndContext_printable_append [] (by simp [Context.presentation?]) cs printable).1
  rw [List.append_nil] at this
  simp [textWidth, this]

/-- The mark `…` waits for no emoji selector, whatever its width. -/
lemma presentation?_ellipsis : (widthAndContext ['…']).2.presentation? ≠ some .emoji := by
  have code : '…'.toNat = 0x2026 := rfl
  rw [widthAndContext_cons, widthAndContext_nil]
  unfold step classify
  simp [code, throughLigature, joined, Context.presentation?, isKhmerCoengLetter,
    isTifinaghConsonant, isRegionalIndicator, isSkinTone]
  split_ifs <;> simp

/-- Printable ASCII before the mark `…` adds one column a character to the mark's width. -/
lemma textWidth_printable_ellipsis {cs : List Char} (printable : ∀ c ∈ cs, IsPrintableAscii c) :
    textWidth (String.ofList cs ++ "…") = cs.length + textWidth "…" := by
  have chars : (String.ofList cs ++ "…").toList = cs ++ ['…'] := by simp
  have mark : textWidth "…" = (widthAndContext ['…']).1.toNat := rfl
  have columns := (widthAndContext_printable_append ['…'] presentation?_ellipsis cs printable).1
  have nonneg := widthAndContext_nonneg ['…']
  rw [mark, textWidth, chars, columns]
  omega

/-- The mark `…`, with nothing after it, takes the columns and the context it has alone. -/
lemma step_ellipsis : step '…' .plain = classify '…' := by
  have code : '…'.toNat = 0x2026 := rfl
  unfold step
  simp [code, throughLigature, joined, Context.presentation?]

end Unicode

namespace SummaryStyle

open Unicode

/-- The columns the cutting loop counts for a run of characters: each character alone, a
control character as none. -/
def charColumns (cs : List Char) : Nat := (cs.map fun c => (charWidth? c).getD 0).sum

@[simp] lemma charColumns_nil : charColumns [] = 0 := rfl

@[simp] lemma charColumns_cons (c : Char) (cs : List Char) :
    charColumns (c :: cs) = (charWidth? c).getD 0 + charColumns cs := by
  simp [charColumns]

@[simp] lemma charColumns_append (xs ys : List Char) :
    charColumns (xs ++ ys) = charColumns xs + charColumns ys := by
  simp [charColumns]

lemma charColumns_printable {cs : List Char} (printable : ∀ c ∈ cs, IsPrintableAscii c) :
    charColumns cs = cs.length := by
  induction cs with
  | nil => rfl
  | cons c cs ih =>
    rw [charColumns_cons, charWidth?_of_isPrintableAscii (printable c (by simp)),
      ih fun d hd => printable d (by simp [hd])]
    simp only [Option.getD_some, List.length_cons]
    omega

/-- The characters of a run take together the columns each takes alone: the run holds no
control character and no sequence (an emoji selector, a joiner, a ligature) that widens or
narrows the characters in it. -/
def WidthsAddUp (cs : List Char) : Prop := (widthAndContext cs).1 = charColumns cs

lemma textWidth_of_widthsAddUp {s : String} (adds : WidthsAddUp s.toList) :
    textWidth s = charColumns s.toList := by
  rw [textWidth, adds, Int.toNat_natCast]

lemma widthsAddUp_ellipsis : WidthsAddUp ['…'] := by
  have code : '…'.toNat = 0x2026 := rfl
  -- the mark's own width comes from the tables; all that matters is that it is not negative
  have nonneg : (0 : Int) ≤ (classify '…').1 := le_trans (by simp) (owed_classify '…')
  simp [WidthsAddUp, widthAndContext_cons, step_ellipsis, charWidth?, code]
  omega

/-- Printable ASCII in front of a run that adds up and waits for no emoji selector keeps the
sum. -/
lemma widthsAddUp_printable_append {ys : List Char} (adds : WidthsAddUp ys)
    (unstyled : (widthAndContext ys).2.presentation? ≠ some .emoji) {pre : List Char}
    (printable : ∀ c ∈ pre, IsPrintableAscii c) : WidthsAddUp (pre ++ ys) := by
  have columns := (widthAndContext_printable_append ys unstyled pre printable).1
  rw [WidthsAddUp, columns, adds, charColumns_append, charColumns_printable printable]
  push_cast
  rfl

/-- **Every cut of a printable ASCII text adds up**, the mark included. -/
theorem widthsAddUp_printable_cuts (text : String)
    (printable : ∀ c ∈ text.toList, IsPrintableAscii c) :
    ∀ kept rest, text.toList = kept ++ rest → WidthsAddUp (kept ++ ['…']) := by
  intro kept rest split
  refine widthsAddUp_printable_append widthsAddUp_ellipsis presentation?_ellipsis ?_
  intro c hc
  exact printable c (split ▸ List.mem_append_left rest hc)

/-- **The loop keeps the longest prefix that leaves a column for the mark**, with `used`
columns already taken and each character counted alone. The induction is on the text, the
columns taken growing by one character's width a round. -/
theorem fitPrefix_longest (width : Nat) : ∀ (cs : List Char) (used : Nat),
    ∃ rest, cs = fitPrefix width cs used ++ rest ∧
      (used + 1 ≤ width → used + charColumns (fitPrefix width cs used) + 1 ≤ width) ∧
      ∀ c ∈ rest.head?,
        width < used + charColumns (fitPrefix width cs used) + (charWidth? c).getD 0 + 1
  | [], used => ⟨[], by simp [fitPrefix], by simp [fitPrefix], by simp⟩
  | c :: cs, used => by
    by_cases overflows : used + (charWidth? c).getD 0 + 1 > width
    · -- the first character does not fit: nothing is kept
      have none : fitPrefix width (c :: cs) used = [] := by simp [fitPrefix, overflows]
      refine ⟨c :: cs, by simp [none], fun room => by simp [none]; omega, ?_⟩
      simp only [none, charColumns_nil, List.head?_cons, Option.mem_def, Option.some.injEq]
      rintro d rfl
      omega
    · have kept : fitPrefix width (c :: cs) used =
          c :: fitPrefix width cs (used + (charWidth? c).getD 0) := by
        simp [fitPrefix, overflows]
      obtain ⟨rest, split, fits, stops⟩ := fitPrefix_longest width cs (used + (charWidth? c).getD 0)
      refine ⟨rest, by rw [kept, List.cons_append, ← split], fun _ => ?_, fun d hd => ?_⟩
      · have := fits (by omega)
        rw [kept, charColumns_cons]
        omega
      · have := stops d hd
        rw [kept, charColumns_cons]
        omega

/-- **What a cut keeps.** A text that fits in `width` columns is kept whole. Any other text is
cut after its longest prefix whose characters, each counted by its own width and a control
character as none, leave one column of `width` for the mark `…`. -/
theorem truncate_longest_prefix (text : String) (width : Nat) (wide : 1 ≤ width) :
    (textWidth text ≤ width ∧ truncate text width = text) ∨
    (width < textWidth text ∧ ∃ kept rest, text.toList = kept ++ rest ∧
      truncate text width = String.ofList kept ++ "…" ∧ charColumns kept + 1 ≤ width ∧
      ∀ c ∈ rest.head?, width < charColumns kept + (charWidth? c).getD 0 + 1) := by
  by_cases fits : textWidth text ≤ width
  · exact .inl ⟨fits, by simp [truncate, fits]⟩
  · obtain ⟨rest, split, room, stops⟩ := fitPrefix_longest width text.toList 0
    refine .inr ⟨by omega, _, rest, split, by simp [truncate, fits], ?_, ?_⟩
    · simpa using room (by omega)
    · simpa using stops

/-- On printable ASCII the loop keeps `width - used - 1` characters. -/
lemma fitPrefix_printable (width : Nat) :
    ∀ (cs : List Char) (used : Nat), (∀ c ∈ cs, IsPrintableAscii c) →
      fitPrefix width cs used = cs.take (width - used - 1)
  | [], _, _ => by simp [fitPrefix]
  | c :: cs, used, printable => by
    have one : charWidth? c = some 1 := charWidth?_of_isPrintableAscii (printable c (by simp))
    by_cases overflows : used + 1 + 1 > width
    · simp [fitPrefix, one, overflows, show width - used - 1 = 0 by omega]
    · have rest := fitPrefix_printable width cs (used + 1) fun d hd => printable d (by simp [hd])
      rw [fitPrefix]
      simp only [one, Option.getD_some, overflows, if_false, rest]
      rw [show width - used - 1 = width - (used + 1) - 1 + 1 by omega, List.take_succ_cons]

/-- **A printable ASCII text is cut to `width` columns.** It is kept whole when it fits;
otherwise its first `width - 1` characters are kept, `width - 1` columns wide, and the mark
`…` follows them. -/
theorem truncate_printable (text : String) (width : Nat)
    (printable : ∀ c ∈ text.toList, IsPrintableAscii c) :
    truncate text width =
        (if text.length ≤ width then text
          else String.ofList (text.toList.take (width - 1)) ++ "…") ∧
      textWidth (truncate text width) =
        if text.length ≤ width then text.length else width - 1 + textWidth "…" := by
  have whole : textWidth text = text.length := by
    simpa [String.length_toList] using textWidth_printable printable
  by_cases fits : text.length ≤ width
  · simp [truncate, whole, fits]
  · have cut : truncate text width = String.ofList (text.toList.take (width - 1)) ++ "…" := by
      simp [truncate, whole, fits, fitPrefix_printable width text.toList 0 printable]
    have kept : (text.toList.take (width - 1)).length = width - 1 := by
      simp only [List.length_take, String.length_toList]
      omega
    refine ⟨by simp [cut, fits], ?_⟩
    rw [if_neg fits, cut, textWidth_printable_ellipsis fun c hc =>
      printable c (List.mem_of_mem_take hc), kept]

/-- **A cut fits in `width` columns where widths add up.** When every prefix of the text, with
the mark `…` after it, is as wide as its characters counted alone, a text that does not fit in
`width` columns is cut to a prefix and the mark, at most `width - 1` columns wide before the
mark. -/
theorem truncate_within_width (text : String) (width : Nat) (wide : 1 ≤ width)
    (adds : ∀ kept rest, text.toList = kept ++ rest → WidthsAddUp (kept ++ ['…'])) :
    (textWidth text ≤ width ∧ truncate text width = text) ∨
    (width < textWidth text ∧ ∃ kept rest, text.toList = kept ++ rest ∧
      truncate text width = String.ofList kept ++ "…" ∧
      textWidth (truncate text width) ≤ width - 1 + textWidth "…") := by
  rcases truncate_longest_prefix text width wide with
    whole | ⟨exceeds, kept, rest, split, cut, room, -⟩
  · exact .inl whole
  · refine .inr ⟨exceeds, kept, rest, split, cut, ?_⟩
    -- the loop counted the kept characters alone, and here that is their width in the text
    have mark : textWidth "…" = charColumns ['…'] :=
      textWidth_of_widthsAddUp (adds [] text.toList rfl)
    have chars : (String.ofList kept ++ "…").toList = kept ++ ['…'] := by simp
    have cutWidth :
        textWidth (String.ofList kept ++ "…") = charColumns kept + charColumns ['…'] := by
      rw [textWidth_of_widthsAddUp (chars ▸ adds kept rest split), chars, charColumns_append]
    rw [cut, cutWidth, mark]
    omega

theorem truncate_within_width_abc :
    1 ≤ 2 ∧ (∀ kept rest, "abc".toList = kept ++ rest → WidthsAddUp (kept ++ ['…'])) ∧
      ((textWidth "abc" ≤ 2 ∧ truncate "abc" 2 = "abc") ∨
        (2 < textWidth "abc" ∧ ∃ kept rest, "abc".toList = kept ++ rest ∧
          truncate "abc" 2 = String.ofList kept ++ "…" ∧
          textWidth (truncate "abc" 2) ≤ 2 - 1 + textWidth "…")) := by
  have adds := widthsAddUp_printable_cuts "abc" (by simp [IsPrintableAscii])
  exact ⟨by decide, adds, truncate_within_width "abc" 2 (by decide) adds⟩

/-- Two tabs are no column to the loop and two to the text: cut to one column, `"\t\ta"` keeps
both tabs, and the result is wider than one column. -/
theorem truncate_tabs_overflow :
    truncate "\t\ta" 1 = "\t\t…" ∧ 1 < textWidth (truncate "\t\ta" 1) := by
  have cut : truncate "\t\ta" 1 = "\t\t…" := by decide
  have tab : ∀ next : Context, step '\t' next = (1, .plain) := fun next =>
    step_narrow (by decide) (by decide) (by decide) (.inl (by decide))
  have chars : "\t\t…".toList = '\t' :: '\t' :: ['…'] := by simp
  have nonneg := widthAndContext_nonneg ['…']
  refine ⟨cut, ?_⟩
  rw [cut, textWidth, chars, widthAndContext_cons, widthAndContext_cons, tab, tab]
  simp only
  omega

end SummaryStyle

end Schemata
