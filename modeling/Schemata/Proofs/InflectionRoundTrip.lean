import Mathlib
import Schemata.Rails.Build

/-!
# Plurals that read back as their word

`Inflect.pluralize` and `Inflect.singularize` know the regular English endings only, and their
branches do not pair up one for one: the plural adds `-es` after any final `s`, but the singular
takes `-es` away only after `ss`, `sh`, `ch`, `x` and `z`; the plural adds a bare `-s` after `ie`,
`u` or a sibilant and `e`, where the singular reads `-ies`, `-us` or a sibilant `-es`.

Main statement (`singularize_pluralize_eq_self_iff`): the singular of the plural of `w` is `w`
exactly when `w` does not end in one of those endings (`misreadPlural`). For every other word a
reference `t.references w` and a foreign key `add_foreign_key table, pluralize w` name the same
column `w_id` (`references_column_eq_foreignKey_column`); `bus`, whose plural `buses` reads back as
`buse`, is the smallest word for which they do not.
-/

namespace Schemata

namespace Inflect

/-! ## Endings of a word -/

lemma endsWith_iff {s suffix : String} : endsWith s suffix = true ↔ suffix.toList <:+ s.toList := by
  rw [endsWith, String.endsWith_eq_endsWith_toSlice, String.Slice.endsWith_string_iff,
    String.copy_toSlice]

/-- An ending of `w ++ t` that runs past `t` is an ending of `w`. -/
lemma endsWith_append_right (w p t : String) : endsWith (w ++ t) (p ++ t) = endsWith w p := by
  rw [Bool.eq_iff_iff, endsWith_iff, endsWith_iff, String.toList_append, String.toList_append,
    List.suffix_append_self_iff]

lemma endsWith_eq_decide (s suffix : String) :
    endsWith s suffix = decide (suffix.toList <:+ s.toList) := by
  simp only [← endsWith_iff, Bool.decide_eq_true]

lemma endsWith_append_self (w t : String) : endsWith (w ++ t) t = true := by
  rw [endsWith_iff, String.toList_append]
  exact List.suffix_append _ _

/-- An ending no longer than `t` is read off `t` alone. -/
lemma endsWith_append_of_length_le {p t : String} (w : String) (short : p.length ≤ t.length) :
    endsWith (w ++ t) p = endsWith t p := by
  rw [Bool.eq_iff_iff, endsWith_iff, endsWith_iff, String.toList_append]
  constructor
  · intro h
    have long : p.toList.length ≤ t.toList.length := by
      rwa [String.length_toList, String.length_toList]
    exact List.suffix_of_suffix_length_le h (List.suffix_append _ _) long
  · exact List.suffix_append_of_suffix

/-- A word has one of two endings only if one of them ends the other. -/
lemma endsWith_eq_false_of_endsWith {w p q : String} (h : endsWith w p = true)
    (pq : ¬ p.toList <:+ q.toList) (qp : ¬ q.toList <:+ p.toList) : endsWith w q = false := by
  rw [Bool.eq_false_iff]
  intro hq
  rw [endsWith_iff] at h hq
  rcases List.suffix_or_suffix_of_suffix h hq with pq' | qp'
  · exact pq pq'
  · exact qp qp'

lemma endsWith_of_endsWith {w p q : String} (h : endsWith w p = true) (qp : q.toList <:+ p.toList) :
    endsWith w q = true :=
  endsWith_iff.mpr (qp.trans (endsWith_iff.mp h))

lemma length_le_of_endsWith {w p : String} (h : endsWith w p = true) : p.length ≤ w.length := by
  have := (endsWith_iff.mp h).length_le
  rwa [String.length_toList, String.length_toList] at this

/-! ## Dropping an ending -/

lemma toList_dropLast (s : String) (n : Nat) :
    (dropLast s n).toList = s.toList.take (s.length - n) := by
  rw [dropLast, String.toList_ofList]

lemma length_dropLast (s : String) (n : Nat) : (dropLast s n).length = s.length - n := by
  rw [← String.length_toList, toList_dropLast, List.length_take, String.length_toList]
  omega

lemma dropLast_append_right (w t : String) (n : Nat) :
    dropLast (w ++ t) (n + t.length) = dropLast w n := by
  rw [← String.toList_inj, toList_dropLast, toList_dropLast, String.toList_append,
    String.length_append, Nat.add_sub_add_right, List.take_append_of_le_length]
  rw [String.length_toList]
  omega

@[simp] lemma dropLast_zero (w : String) : dropLast w 0 = w := by
  rw [← String.toList_inj, toList_dropLast, Nat.sub_zero, ← String.length_toList, List.take_length]

/-- Dropping an ending the word has and writing it again gives the word. -/
lemma dropLast_append_of_endsWith {w t : String} (h : endsWith w t = true) :
    dropLast w t.length ++ t = w := by
  obtain ⟨pre, hpre⟩ := endsWith_iff.mp h
  have split : w = String.ofList pre ++ t := by
    rw [← String.toList_inj, String.toList_append, String.toList_ofList, hpre]
  rw [split, ← Nat.zero_add t.length, dropLast_append_right, dropLast_zero]

/-! ## The singular of a plural form -/

/-- A word that the plural gave `-ies` reads back with `-y`. -/
lemma singularize_append_ies (stem : String) : singularize (stem ++ "ies") = stem ++ "y" := by
  have drop : dropLast (stem ++ "ies") 3 = stem :=
    (dropLast_append_right stem "ies" 0).trans (dropLast_zero stem)
  simp only [singularize, endsWith_append_self, drop, if_true]

/-- How the singular reads a word with `-es` added. -/
lemma singularize_append_es (w : String) : singularize (w ++ "es") =
    if endsWith w "i" then dropLast w 1 ++ "y"
    else if ["ss", "sh", "ch", "x", "z"].any (endsWith w ·) then w
    else w ++ "e" := by
  have ies : endsWith (w ++ "es") "ies" = endsWith w "i" := endsWith_append_right w "i" "es"
  have sses : endsWith (w ++ "es") "sses" = endsWith w "ss" := endsWith_append_right w "ss" "es"
  have shes : endsWith (w ++ "es") "shes" = endsWith w "sh" := endsWith_append_right w "sh" "es"
  have ches : endsWith (w ++ "es") "ches" = endsWith w "ch" := endsWith_append_right w "ch" "es"
  have xes : endsWith (w ++ "es") "xes" = endsWith w "x" := endsWith_append_right w "x" "es"
  have zes : endsWith (w ++ "es") "zes" = endsWith w "z" := endsWith_append_right w "z" "es"
  -- the endings `ss`, `us` and `s` are decided by the added `es` alone
  have ss : endsWith (w ++ "es") "ss" = false := by
    rw [endsWith_append_of_length_le w (by decide), endsWith_eq_decide]; decide
  have us : endsWith (w ++ "es") "us" = false := by
    rw [endsWith_append_of_length_le w (by decide), endsWith_eq_decide]; decide
  have s : endsWith (w ++ "es") "s" = true := by
    rw [endsWith_append_of_length_le w (by decide), endsWith_eq_decide]; decide
  have drop3 : dropLast (w ++ "es") 3 = dropLast w 1 := dropLast_append_right w "es" 1
  have drop2 : dropLast (w ++ "es") 2 = w :=
    (dropLast_append_right w "es" 0).trans (dropLast_zero w)
  have drop1 : dropLast (w ++ "es") 1 = w ++ "e" := by
    rw [show w ++ "es" = (w ++ "e") ++ "s" by rw [String.append_assoc]; rfl]
    exact (dropLast_append_right (w ++ "e") "s" 0).trans (dropLast_zero _)
  simp only [singularize, List.any_cons, List.any_nil, Bool.or_false, ies, sses, shes, ches, xes,
    zes, ss, us, s, drop3, drop2, drop1, if_true, Bool.false_eq_true, if_false]

/-- How the singular reads a word with `-s` added. -/
lemma singularize_append_s (w : String) : singularize (w ++ "s") =
    if endsWith w "ie" then dropLast w 2 ++ "y"
    else if ["sse", "she", "che", "xe", "ze"].any (endsWith w ·) then dropLast w 1
    else if endsWith w "s" || endsWith w "u" then w ++ "s"
    else w := by
  have ies : endsWith (w ++ "s") "ies" = endsWith w "ie" := endsWith_append_right w "ie" "s"
  have sses : endsWith (w ++ "s") "sses" = endsWith w "sse" := endsWith_append_right w "sse" "s"
  have shes : endsWith (w ++ "s") "shes" = endsWith w "she" := endsWith_append_right w "she" "s"
  have ches : endsWith (w ++ "s") "ches" = endsWith w "che" := endsWith_append_right w "che" "s"
  have xes : endsWith (w ++ "s") "xes" = endsWith w "xe" := endsWith_append_right w "xe" "s"
  have zes : endsWith (w ++ "s") "zes" = endsWith w "ze" := endsWith_append_right w "ze" "s"
  have ss : endsWith (w ++ "s") "ss" = endsWith w "s" := endsWith_append_right w "s" "s"
  have us : endsWith (w ++ "s") "us" = endsWith w "u" := endsWith_append_right w "u" "s"
  have drop3 : dropLast (w ++ "s") 3 = dropLast w 2 := dropLast_append_right w "s" 2
  have drop2 : dropLast (w ++ "s") 2 = dropLast w 1 := dropLast_append_right w "s" 1
  have drop1 : dropLast (w ++ "s") 1 = w := (dropLast_append_right w "s" 0).trans (dropLast_zero w)
  simp only [singularize, List.any_cons, List.any_nil, Bool.or_false, ies, sses, shes, ches, xes,
    zes, ss, us, endsWith_append_self, drop3, drop2, drop1, if_true]

/-! ## Words whose plural reads back -/

/-- Words whose plural the singular reads as another word: a final `s` not after another `s`
(`bus`, `buses`, `buse`), a final `ie` (`tie`, `ties`, `ty`), a final `u` (`menu`, `menus`), and
a sibilant followed by `e` (`axe`, `axes`, `ax`). -/
def misreadPlural (w : String) : Bool :=
  (endsWith w "s" && !endsWith w "ss") || endsWith w "ie" || endsWith w "u" ||
    ["sse", "she", "che", "xe", "ze"].any (endsWith w ·)

lemma dropLast_ne_self {w : String} {n : Nat} (pos : 0 < n) (le : n ≤ w.length) :
    dropLast w n ≠ w := by
  intro same
  have := congrArg String.length same
  rw [length_dropLast] at this
  omega

/-- The singular of the plural of a word is the word exactly when the word avoids the endings of
`misreadPlural`. The proof follows the three plural forms. -/
theorem singularize_pluralize_eq_self_iff (w : String) :
    singularize (pluralize w) = w ↔ misreadPlural w = false := by
  unfold pluralize
  dsimp only
  split_ifs with consonantY sibilant
  · -- a `y` after a consonant comes back from `-ies`
    have y : endsWith w "y" = true := by simp_all
    have back := dropLast_append_of_endsWith y
    rw [show "y".length = 1 by decide] at back
    rw [singularize_append_ies, back]
    simp (disch := decide) only [misreadPlural, List.any_cons, List.any_nil,
      endsWith_eq_false_of_endsWith y, Bool.false_and, Bool.or_false]
  · -- a sibilant takes `-es`, which the singular drops again after `ss`, `sh`, `ch`, `x`, `z`
    rw [singularize_append_es]
    simp only [List.any_cons, List.any_nil, Bool.or_false, Bool.or_eq_true] at sibilant
    rcases sibilant with s | e | e | e | e
    · by_cases ss : endsWith w "ss" = true
      · simp (disch := decide) only [misreadPlural, List.any_cons, List.any_nil,
          endsWith_eq_false_of_endsWith ss, endsWith_of_endsWith ss]
        simp
      · -- a single final `s` comes back with an `e`
        simp (disch := decide) only [misreadPlural, List.any_cons, List.any_nil,
          endsWith_eq_false_of_endsWith s, s, ss]
        simp
    -- after `x`, `z`, `ch` and `sh` the `-es` goes again
    all_goals
      simp (disch := decide) only [misreadPlural, List.any_cons, List.any_nil,
        endsWith_eq_false_of_endsWith e, endsWith_of_endsWith e]
      simp
  · -- any other word takes `-s`
    rw [singularize_append_s]
    simp only [List.any_cons, List.any_nil, Bool.or_false, Bool.or_eq_true, not_or] at sibilant
    obtain ⟨s, -⟩ := sibilant
    split_ifs with ie sibilantE su
    · -- `-ies` reads as `-y`: `tie`, `ties`, `ty`
      have differ : dropLast w 2 ++ "y" ≠ w := by
        intro same
        have y : endsWith w "y" = true := same ▸ endsWith_append_self _ _
        rw [endsWith_eq_false_of_endsWith ie (by decide) (by decide)] at y
        exact Bool.false_ne_true y
      simp [misreadPlural, ie, differ]
    · -- a sibilant and `e`: the singular drops the `e` too
      have nonempty : 1 ≤ w.length := by
        simp only [List.any_cons, List.any_nil, Bool.or_false, Bool.or_eq_true] at sibilantE
        rcases sibilantE with e | e | e | e | e <;>
          exact le_trans (by decide) (length_le_of_endsWith e)
      simp [misreadPlural, sibilantE, dropLast_ne_self (by decide) nonempty]
    · -- a final `u` (the `s` case is a sibilant): `-us` is taken as singular
      have u : endsWith w "u" = true := by simpa [s] using su
      simp [misreadPlural, u]
    · -- everything else comes back
      simp only [Bool.or_eq_true, not_or] at su
      simp_all [misreadPlural]

/-- `bus` takes `-es`, and `buses` reads back as `buse`. -/
theorem singularize_pluralize_bus :
    pluralize "bus" = "buses" ∧ singularize (pluralize "bus") ≠ "bus" := by
  cbv

end Inflect

namespace Rails

open Inflect

/-- **References and foreign keys name one column.** The singular of the plural of `w` is `w`
exactly when `w` avoids the endings of `misreadPlural`. A reference `t.references w` with a
foreign key links the column `w_id` to the table `pluralize w`; for every such `w` a foreign key
`add_foreign_key table, pluralize w` without options links that same column. -/
theorem references_column_eq_foreignKey_column (w : String) :
    (singularize (pluralize w) = w ↔ misreadPlural w = false) ∧
    (∀ (t : Table) (c : Call), (c.args.head?).bind Value.asText? = some w →
      c.optionIs "foreign_key" true = true →
      (references t c).2 = some (w ++ "_id", pluralize w)) ∧
    ∀ (b : Builder) (c : Call) (table : String), c.strings = [table, pluralize w] →
      c.options = [] → misreadPlural w = false →
      b.addForeignKey c = b.link
        { table := table, column := w ++ "_id", targetTable := pluralize w, targetColumn := "id",
          name := none, onUpdate := .noAction, onDelete := .noAction } := by
  refine ⟨singularize_pluralize_eq_self_iff w, ?_, ?_⟩
  · intro t c named linked
    unfold references
    simp [named, linked]
  · intro b c table strings bare read
    have back : singularize (pluralize w) = w := (singularize_pluralize_eq_self_iff w).mpr read
    unfold Builder.addForeignKey
    simp [strings, Call.optionText?, Call.option?, bare, back]

/-- `t.references :user, foreign_key: true` in `posts` and `add_foreign_key "posts", "users"`
link the same column `user_id`. -/
theorem references_column_eq_foreignKey_column_user :
    let reference : Call :=
      ⟨some "t", "references", [.symbol "user"], [("foreign_key", .bool true)], [], 0⟩
    let foreignKey : Call := ⟨none, "add_foreign_key", [.str "posts", .str "users"], [], [], 0⟩
    foreignKey.strings = ["posts", pluralize "user"] ∧ misreadPlural "user" = false ∧
      (references { name := "posts" } reference).2 = some ("user" ++ "_id", pluralize "user") ∧
      ({} : Builder).addForeignKey foreignKey = ({} : Builder).link
        { table := "posts", column := "user" ++ "_id", targetTable := pluralize "user",
          targetColumn := "id", name := none, onUpdate := .noAction, onDelete := .noAction } := by
  intro reference foreignKey
  have strings : foreignKey.strings = ["posts", pluralize "user"] := by cbv
  have read : misreadPlural "user" = false := by cbv
  obtain ⟨-, named, linked⟩ := references_column_eq_foreignKey_column "user"
  exact ⟨strings, read, named _ reference rfl rfl, linked {} foreignKey "posts" strings rfl read⟩

end Rails

end Schemata
