import Mathlib
import Schemata.Json.Patch

/-!
# A pointer reads back as the segments it was written from

`Pointer.ofSegments` writes each segment after a `/`, with `~` escaped as `~0` and `/` as `~1`.
Reading the text back with `Pointer.segments?` gives exactly the segments written, whatever
characters they hold, the empty segment included:

* escaping leaves no `/` inside a segment, so splitting at every `/` finds the borders;
* replacing `~1` before `~0` undoes the escape, since after escaping every `~` is followed by
  `0` or `1`.

Array positions are written as plain decimals. Escaping leaves a decimal alone, and
`Json.arrayIndex?` reads it back as the position, for every position below `2 ^ 64`.
-/

namespace Schemata

namespace Pointer

/-! ## One segment -/

lemma slash_not_mem_escapeChars (cs : List Char) : '/' ∉ escapeChars cs := by
  induction cs with
  | nil => simp [escapeChars]
  | cons c cs ih =>
    by_cases tilde : c = '~'
    · subst tilde; simp [escapeChars, ih]
    · by_cases slash : c = '/'
      · subst slash; simp [escapeChars, ih]
      · simp [escapeChars, ih, Ne.symm slash]

/-- Undoing `~1` and then `~0` restores the escaped characters. -/
lemma unescape_escapeChars (cs : List Char) :
    unescapeTilde (unescapeSlash (escapeChars cs)) = cs := by
  induction cs with
  | nil => simp [escapeChars, unescapeSlash, unescapeTilde]
  | cons c cs ih =>
    by_cases tilde : c = '~'
    · subst tilde; simp [escapeChars, unescapeSlash, unescapeTilde, ih]
    · by_cases slash : c = '/'
      · subst slash; simp [escapeChars, unescapeSlash, unescapeTilde, ih]
      · simp [escapeChars, unescapeSlash, unescapeTilde, tilde, ih]

/-- Characters that are neither `~` nor `/` are written as they are. -/
lemma escapeChars_of_plain {cs : List Char} (plain : ∀ c ∈ cs, c ≠ '~' ∧ c ≠ '/') :
    escapeChars cs = cs := by
  induction cs with
  | nil => rfl
  | cons c cs ih =>
    obtain ⟨tilde, slash⟩ := plain c (by simp)
    simp [escapeChars, ih (fun d hd => plain d (by simp [hd]))]

@[simp] lemma unescapeSegment_escapeSegment (s : String) :
    unescapeSegment (escapeSegment s) = s := by
  simp [unescapeSegment, escapeSegment, String.toList_ofList, unescape_escapeChars,
    String.ofList_toList]

/-! ## Splitting at slashes -/

lemma splitSlash_of_slash_not_mem {cs : List Char} (h : '/' ∉ cs) : splitSlash cs = [cs] := by
  induction cs with
  | nil => rfl
  | cons c cs ih =>
    have slash : c ≠ '/' := fun e => h (by simp [e])
    simp only [List.mem_cons, not_or] at h
    simp [splitSlash, ih h.2]

lemma splitSlash_append_slash {cs : List Char} (rest : List Char) (h : '/' ∉ cs) :
    splitSlash (cs ++ '/' :: rest) = cs :: splitSlash rest := by
  induction cs with
  | nil => simp [splitSlash]
  | cons c cs ih =>
    have slash : c ≠ '/' := fun e => h (by simp [e])
    simp only [List.mem_cons, not_or] at h
    simp [splitSlash, ih h.2]

/-- The characters of a pointer after its first `/`. -/
lemma splitSlash_escaped (s : String) (rest : List String) :
    splitSlash (escapeChars s.toList ++ rest.flatMap fun t => '/' :: escapeChars t.toList) =
      (s :: rest).map fun t => escapeChars t.toList := by
  induction rest generalizing s with
  | nil => simp [splitSlash_of_slash_not_mem (slash_not_mem_escapeChars _)]
  | cons t rest ih =>
    rw [List.flatMap_cons, List.cons_append,
      splitSlash_append_slash _ (slash_not_mem_escapeChars _), ih]
    rfl

/-! ## Whole pointers -/

lemma toList_ofSegments (segs : List String) :
    (ofSegments segs).toList = segs.flatMap fun t => '/' :: escapeChars t.toList := by
  simp [ofSegments, String.toList_join, List.flatMap_map, escapeSegment, String.toList_ofList]

/-- **Pointer round trip.** A written pointer reads back as its segments. -/
theorem segments?_ofSegments (segs : List String) : segments? (ofSegments segs) = some segs := by
  cases segs with
  | nil => simp [segments?, ofSegments]
  | cons s rest =>
    simp only [segments?, toList_ofSegments, List.flatMap_cons, List.cons_append,
      splitSlash_escaped, List.map_map]
    simp [Function.comp_def, unescape_escapeChars, String.ofList_toList]

/-- **Writing and reading pointers are inverse.** Every list of segments reads back from its
pointer; hence no two segments share an escaped form, and a text that is a pointer is
written again, character for character, from the segments it reads as. -/
theorem segments?_ofSegments_inverse :
    (∀ segs, segments? (ofSegments segs) = some segs) ∧ Function.Injective escapeSegment ∧
      ∀ p ∈ Set.range ofSegments, (segments? p).map ofSegments = some p := by
  refine ⟨segments?_ofSegments, ?_, ?_⟩
  · exact Function.LeftInverse.injective unescapeSegment_escapeSegment
  · rintro _ ⟨segs, rfl⟩
    rw [segments?_ofSegments, Option.map_some]

lemma ofSegments_append (p q : List String) :
    ofSegments (p ++ q) = ofSegments p ++ ofSegments q := by
  simp [ofSegments, String.join_append]

/-- A pointer to a child extends its parent's text by `/` and the escaped key. -/
lemma ofSegments_concat (p : List String) (key : String) :
    ofSegments p ++ "/" ++ escapeSegment key = ofSegments (p ++ [key]) := by
  simp [ofSegments, String.join_cons, String.join_nil, String.append_assoc]

/-! ## Array positions -/

lemma digits_plain (i : Nat) : ∀ c ∈ (toString i).toList, c ≠ '~' ∧ c ≠ '/' := by
  intro c hc
  rw [Nat.toString_eq_repr, Nat.toList_repr] at hc
  have digit := Nat.isDigit_of_mem_toDigits (by decide) (by decide) hc
  constructor <;> rintro rfl <;> simp [Char.isDigit] at digit

@[simp] lemma escapeSegment_toString (i : Nat) : escapeSegment (toString i) = toString i := by
  rw [escapeSegment, escapeChars_of_plain (digits_plain i), String.ofList_toList]

lemma ofSegments_concat_index (p : List String) (i : Nat) :
    ofSegments p ++ "/" ++ toString i = ofSegments (p ++ [toString i]) := by
  rw [← ofSegments_concat, escapeSegment_toString]

end Pointer

namespace Json

/-- The decimal text of a positive number does not start with `0`. -/
lemma head?_toDigits_ne_zero {n : Nat} (pos : 0 < n) : (Nat.toDigits 10 n).head? ≠ some '0' := by
  induction n using Nat.strong_induction_on with
  | _ n ih =>
    by_cases small : n < 10
    · have units : ∀ m < 10, 0 < m → Nat.digitChar m ≠ '0' := by decide
      simpa [Nat.toDigits_of_lt_base small] using units n small pos
    · rw [Nat.toDigits_of_base_le (by decide) (by omega),
        List.head?_append_of_ne_nil _ Nat.toDigits_ne_nil]
      exact ih (n / 10) (by omega) (by omega)

/-- **Index round trip.** The decimal text of a position below `2 ^ 64` reads as that
position. -/
theorem arrayIndex?_toString {i : Nat} (h : i < 2 ^ 64) : arrayIndex? (toString i) = some i := by
  have digits : (toString i).toList = Nat.toDigits 10 i := by
    rw [Nat.toString_eq_repr, Nat.toList_repr]
  have allDigits : (Nat.toDigits 10 i).all (fun c => '0' ≤ c && c ≤ '9') = true := by
    rw [List.all_eq_true]
    intro c hc
    have digit := Nat.isDigit_of_mem_toDigits (by decide) (by decide) hc
    simpa [Char.isDigit, Char.le_def] using digit
  have noLeadingZero : ¬((Nat.toDigits 10 i).length > 1 ∧ (Nat.toDigits 10 i).head? = some '0') := by
    rintro ⟨long, zero⟩
    rcases Nat.eq_zero_or_pos i with rfl | pos
    · simp [Nat.toDigits_zero] at long
    · exact head?_toDigits_ne_zero pos zero
  have value : (Nat.toDigits 10 i).foldl (fun acc c => acc * 10 + (c.toNat - '0'.toNat)) 0 = i := by
    have := Nat.ofDigitChars_ten_toDigits (n := i)
    simpa [Nat.ofDigitChars, Nat.mul_comm] using this
  simp only [arrayIndex?, digits, allDigits, value]
  simp_all [Nat.toDigits_ne_nil]

end Json

end Schemata
