import Mathlib
import Schemata.Proofs.JsonEquality
import Schemata.Schema.Patch

/-!
# A schema reads back from its JSON form

Writing a schema as JSON and reading it back gives the same schema, with every map in the same
order (`Schema.toJson_roundTrip`), provided the schema is one the JSON form can carry: every
map holds each name once, as the maps of a schema read from JSON always do, every integer
default lies below `2 ^ 63`, and every double default is finite (a non-finite one is written
`null`). Patching a schema with no operations therefore gives it back.

Reading goes through a shape (`Shape.read`) and then converts the canonical value. The first
step is the one with content: a default is read as the first of a boolean, a 64-bit integer,
a double and a string that fits, so each kind must fail the alternatives before its own; and
every list, map and record costs fuel by its length, so the fuel the reader allows must cover
the whole document. The statement `Shape.Keeps shape K v` says that `v` reads back through
`shape` as itself given fuel `weight v + K`, where `weight` counts the nodes of `v`: a small
constant `K` per level of nesting suffices, and the reader allows `16 * (weight v + 4)`.
Each shape's lemma rewrites with what one round of the reader does (`conform_seq`,
`conformFirst_skip`, ...), stated once by `rfl`.
-/

namespace Schemata

namespace Json

/-! ## Weights -/

lemma one_le_weight (v : Json) : 1 ≤ weight v := by
  cases v <;> simp [weight]

@[simp] lemma weight_str (s : String) : weight (.str s) = 1 := by
  simp [weight]

@[simp] lemma weight_arr (items : List Json) : weight (.arr items) = weightItems items + 1 := by
  simp [weight]

@[simp] lemma weight_obj (fields : List (String × Json)) :
    weight (.obj fields) = weightFields fields + 1 := by
  simp [weight]

@[simp] lemma weightItems_cons (x : Json) (rest : List Json) :
    weightItems (x :: rest) = weight x + weightItems rest := by
  simp [weightItems]

@[simp] lemma weightFields_cons (k : String) (x : Json) (rest : List (String × Json)) :
    weightFields ((k, x) :: rest) = weight x + weightFields rest := by
  simp [weightFields]

/-! ## One round of reading

What one round of `Shape.conform` and its helpers does with a value of the form the shape
expects. The proofs below rewrite with these and never unfold the reader itself. -/

section Round

variable {m : Nat} {src : Source}

lemma conform_text (s : String) : Shape.conform (m + 1) src .text (.str s) = .ok (.str s) := rfl

lemma conform_flag (b : Bool) : Shape.conform (m + 1) src .flag (.bool b) = .ok (.bool b) := rfl

lemma conform_keyword (words : List String) (s : String) :
    Shape.conform (m + 1) src (.keyword words) (.str s) =
      if words.contains s then .ok (.str s) else .error (.unknownVariant s words) := rfl

lemma conform_int64_nat (n : Nat) :
    Shape.conform (m + 1) src .int64 (.num (.nat n)) =
      if n < 2 ^ 63 then .ok (.num (.nat n)) else .error (.invalidValue (.unsigned n) "i64") := rfl

lemma conform_int64_negInt (n : Int) :
    Shape.conform (m + 1) src .int64 (.num (.negInt n)) = .ok (.num (.negInt n)) := rfl

lemma conform_float64 (x : Number) :
    Shape.conform (m + 1) src .float64 (.num x) = .ok (.num (.float x.toDouble)) := rfl

lemma conform_opt_null (inner : Shape) :
    Shape.conform (m + 1) src (.opt inner) .null = .ok .null := rfl

/-- An optional shape reads any value but `null` through its inner shape. -/
lemma conform_opt {inner : Shape} {v : Json} (present : v ≠ .null) :
    Shape.conform (m + 1) src (.opt inner) v = Shape.conform m src inner v := by
  cases v with
  | null => exact absurd rfl present
  | _ => rfl

lemma conform_fallback (d : Json) (inner : Shape) (v : Json) :
    Shape.conform (m + 1) src (.fallback d inner) v = Shape.conform m src inner v := rfl

lemma conform_seq (item : Shape) (xs : List Json) :
    Shape.conform (m + 1) src (.seq item) (.arr xs) =
      (Shape.conformItems m src item xs).map .arr := rfl

lemma conform_dict (item : Shape) (fs : List (String × Json)) :
    Shape.conform (m + 1) src (.dict item) (.obj fs) =
      (Shape.conformDict m src item fs []).map .obj := rfl

lemma conform_record (name : String) (fields : List (String × Shape)) (fs : List (String × Json)) :
    Shape.conform (m + 1) src (.record name fields) (.obj fs) =
      (Shape.conformMembers m src fields fs []).bind (fillRecord fields) := rfl

lemma conform_untagged (name : String) (alts : List Shape) (v : Json) :
    Shape.conform (m + 1) src (.untagged name alts) v = Shape.conformFirst m src name alts v := rfl

lemma conform_tagged (name tag : String) (variants : List (String × String × List (String × Shape)))
    (fs : List (String × Json)) :
    Shape.conform (m + 1) src (.tagged name tag variants) (.obj fs) = (do
      let (t, rest) ← takeTag tag (variants.map (·.1)) fs none []
      Shape.conformVariant m name tag variants t (.obj rest)) := rfl

lemma conformItems_nil (n : Nat) (item : Shape) : Shape.conformItems n src item [] = .ok [] := by
  cases n <;> rfl

lemma conformItems_cons (item : Shape) (x : Json) (rest : List Json) :
    Shape.conformItems (m + 1) src item (x :: rest) = (do
      let y ← Shape.conform m src item x
      let ys ← Shape.conformItems m src item rest
      pure (y :: ys)) := rfl

lemma conformDict_nil (n : Nat) (item : Shape) (acc : List (String × Json)) :
    Shape.conformDict n src item [] acc = .ok acc := by
  cases n <;> rfl

lemma conformDict_cons (item : Shape) (k : String) (x : Json) (rest acc : List (String × Json)) :
    Shape.conformDict (m + 1) src item ((k, x) :: rest) acc = (do
      let y ← Shape.conform m src item x
      Shape.conformDict m src item rest (setField k y acc)) := rfl

lemma conformMembers_nil (n : Nat) (fields : List (String × Shape)) (found : List (String × Json)) :
    Shape.conformMembers n src fields [] found = .ok found := by
  cases n <;> rfl

lemma conformMembers_cons (fields : List (String × Shape)) (k : String) (x : Json)
    (rest found : List (String × Json)) :
    Shape.conformMembers (m + 1) src fields ((k, x) :: rest) found =
      match fields.lookup k with
      | none => Shape.conformMembers m src fields rest found
      | some shape =>
        if found.any (·.1 == k) then .error (.duplicateField k)
        else (do
          let y ← Shape.conform m src shape x
          Shape.conformMembers m src fields rest (found ++ [(k, y)])) := rfl

lemma conformFirst_cons (name : String) (alt : Shape) (alts : List Shape) (v : Json) :
    Shape.conformFirst (m + 1) src name (alt :: alts) v =
      match Shape.conform m .buffered alt v with
      | .ok y => .ok y
      | .error _ => Shape.conformFirst m src name alts v := rfl

/-- The first alternative that fits gives the value. -/
lemma conformFirst_take {name : String} {alt : Shape} {alts : List Shape} {v y : Json}
    (fits : Shape.conform m .buffered alt v = .ok y) :
    Shape.conformFirst (m + 1) src name (alt :: alts) v = .ok y := by
  rw [conformFirst_cons, fits]

/-- An alternative that does not fit passes the value on to the next. -/
lemma conformFirst_skip {name : String} {alt : Shape} {alts : List Shape} {v : Json}
    {e : DecodeFault} (fails : Shape.conform m .buffered alt v = .error e) :
    Shape.conformFirst (m + 1) src name (alt :: alts) v = Shape.conformFirst m src name alts v := by
  rw [conformFirst_cons, fails]

/-- The variant a tag names reads its members as a record, the tag put back first. -/
lemma conformVariant_obj {name tag t ident : String}
    {variants : List (String × String × List (String × Shape))} {fields : List (String × Shape)}
    {fs found members : List (String × Json)}
    (named : variants.find? (·.1 == t) = some (t, ident, fields))
    (collected : Shape.conformMembers m .buffered fields fs [] = .ok found)
    (filled : fillRecord fields found = .ok (.obj members)) :
    Shape.conformVariant (m + 1) name tag variants t (.obj fs) =
      .ok (.obj ((tag, .str t) :: members)) := by
  unfold Shape.conformVariant
  simp [named, collected, filled, bind, Except.bind, pure, Except.pure]

end Round

/-! ## Values that read back as themselves -/

/-- `v` reads back through `shape` as itself, from either source, given fuel `weight v + K`. -/
def Shape.Keeps (shape : Shape) (K : Nat) (v : Json) : Prop :=
  ∀ src n, weight v + K ≤ n → shape.conform n src v = .ok v

namespace Shape.Keeps

variable {shape inner item : Shape} {K K' : Nat} {v : Json}

lemma mono (h : Keeps shape K v) (le : K ≤ K') : Keeps shape K' v :=
  fun src n fuel => h src n (by omega)

/-- Every read of a value takes at least one round of fuel. -/
lemma of_succ (h : ∀ src m, weight v + K ≤ m + 1 → shape.conform (m + 1) src v = .ok v) :
    Keeps shape K v := by
  intro src n fuel
  obtain ⟨m, rfl⟩ : ∃ m, n = m + 1 := ⟨n - 1, by have := one_le_weight v; omega⟩
  exact h src m fuel

lemma text (s : String) : Keeps .text K (.str s) :=
  of_succ fun _ _ _ => conform_text s

lemma flag (b : Bool) : Keeps .flag K (.bool b) :=
  of_succ fun _ _ _ => conform_flag b

lemma keyword {s : String} {words : List String} (known : s ∈ words) :
    Keeps (.keyword words) K (.str s) :=
  of_succ fun _ _ _ => by simp [conform_keyword, known]

lemma fallback {d : Json} (h : Keeps inner K v) : Keeps (.fallback d inner) (K + 1) v :=
  of_succ fun src m fuel => by
    rw [conform_fallback]
    exact h src m (by omega)

lemma opt_null : Keeps (.opt inner) K .null :=
  of_succ fun _ _ _ => conform_opt_null inner

lemma opt (h : Keeps inner K v) (present : v ≠ .null) : Keeps (.opt inner) (K + 1) v :=
  of_succ fun src m fuel => by
    rw [conform_opt present]
    exact h src m (by omega)

/-- The reader's fuel covers every value that reads back with a margin of at most `64`. -/
lemma read (h : Keeps shape K v) (small : K ≤ 64) : shape.read v = .ok v := by
  unfold Shape.read
  exact h _ _ (by omega)

end Shape.Keeps

/-! ## Lists, maps and records -/

section Collections

open Shape

variable {item : Shape} {K : Nat} {src : Source}

/-- `List.lookup` and `Json.lookup` find the same field. -/
lemma list_lookup_eq (key : String) (fields : List (String × Json)) :
    fields.lookup key = lookup key fields := by
  induction fields with
  | nil => rfl
  | cons kv rest ih =>
    obtain ⟨k, v⟩ := kv
    by_cases same : k = key
    · subst same; simp [List.lookup, lookup]
    · have other : (key == k) = false := beq_false_of_ne (Ne.symm same)
      have other' : (k == key) = false := beq_false_of_ne same
      simp only [List.lookup, lookup, other, other', ih, Bool.false_eq_true, if_false]

/-- Elements that each read back, read back one after another: each costs one round. -/
lemma conformItems_keeps : ∀ {xs : List Json} {n : Nat}, (∀ x ∈ xs, Keeps item K x) →
    weightItems xs + K + 1 ≤ n → conformItems n src item xs = .ok xs
  | [], n, _, _ => conformItems_nil n item
  | x :: rest, n, each, fuel => by
    obtain ⟨m, rfl⟩ : ∃ m, n = m + 1 := ⟨n - 1, by simp at fuel; omega⟩
    have first := each x List.mem_cons_self src m (by simp at fuel; omega)
    have later : conformItems m src item rest = .ok rest :=
      conformItems_keeps (fun y member => each y (List.mem_cons_of_mem x member))
        (by have := one_le_weight x; simp at fuel; omega)
    simp [conformItems_cons, first, later, bind, Except.bind, pure, Except.pure]

/-- Members with distinct keys that each read back are collected in order, each appended to
the members before it. -/
lemma conformDict_keeps : ∀ {fs acc : List (String × Json)} {n : Nat},
    (∀ p ∈ fs, Keeps item K p.2) → (keys (acc ++ fs)).Nodup → weightFields fs + K + 1 ≤ n →
      conformDict n src item fs acc = .ok (acc ++ fs)
  | [], acc, n, _, _, _ => by simp [conformDict_nil]
  | (k, x) :: rest, acc, n, each, distinct, fuel => by
    obtain ⟨m, rfl⟩ : ∃ m, n = m + 1 := ⟨n - 1, by simp at fuel; omega⟩
    have first := each (k, x) List.mem_cons_self src m (by simp at fuel ⊢; omega)
    -- the key is fresh, so it is appended
    have fresh : k ∉ keys acc := by
      simp only [keys, List.map_append, List.map_cons] at distinct
      exact fun old => List.disjoint_of_nodup_append distinct old List.mem_cons_self
    have later : conformDict m src item rest (acc ++ [(k, x)]) = .ok (acc ++ [(k, x)] ++ rest) :=
      conformDict_keeps (fun p member => each p (List.mem_cons_of_mem _ member)) (by simpa using distinct)
      (by have := one_le_weight x; simp at fuel; omega)
    simp [conformDict_cons, first, later, setField_of_not_mem fresh, bind, Except.bind]

/-- The declared fields of a record found with distinct names, in declaration order, and each
reading back. -/
lemma conformMembers_keeps {fields : List (String × Shape)} :
    ∀ {fs found : List (String × Json)} {n : Nat},
      (∀ p ∈ fs, ∃ shape, fields.lookup p.1 = some shape ∧ Keeps shape K p.2) →
      (keys (found ++ fs)).Nodup → weightFields fs + K + 1 ≤ n →
        conformMembers n src fields fs found = .ok (found ++ fs)
  | [], found, n, _, _, _ => by simp [conformMembers_nil]
  | (k, x) :: rest, found, n, each, distinct, fuel => by
    obtain ⟨m, rfl⟩ : ∃ m, n = m + 1 := ⟨n - 1, by simp at fuel; omega⟩
    obtain ⟨shape, declared, keeps⟩ := each (k, x) List.mem_cons_self
    have first := keeps src m (by simp at fuel ⊢; omega)
    -- the key has not been seen before
    have fresh : k ∉ keys found := by
      simp only [keys, List.map_append, List.map_cons] at distinct
      exact fun old => List.disjoint_of_nodup_append distinct old List.mem_cons_self
    have unseen : (found.any fun p => p.1 == k) = false := by
      rw [List.any_eq_false]
      rintro ⟨a, b⟩ member same
      rw [beq_iff_eq] at same
      exact fresh (same ▸ List.mem_map_of_mem (f := Prod.fst) member)
    have later : conformMembers m src fields rest (found ++ [(k, x)]) =
        .ok (found ++ [(k, x)] ++ rest) :=
      conformMembers_keeps (fun p member => each p (List.mem_cons_of_mem _ member)) (by simpa using distinct)
      (by have := one_le_weight x; simp at fuel; omega)
    simp [conformMembers_cons, declared, unseen, first, later, bind, Except.bind]

/-- A run of steps that each succeed succeeds with their results. -/
lemma mapM_of_forall₂ {β γ : Type} {g : β → Except DecodeFault γ} :
    ∀ {xs : List β} {ys : List γ}, List.Forall₂ (fun x y => g x = .ok y) xs ys → xs.mapM g = .ok ys
  | _, _, .nil => rfl
  | _, _, .cons head tail => by
    simp [List.mapM_cons, head, mapM_of_forall₂ tail, bind, Except.bind, pure, Except.pure]

/-- The shape of a field named like a member with distinct names is found under that name. -/
lemma lookup_of_forall₂ {R : Shape → Json → Prop} {fields : List (String × Shape)}
    {fs : List (String × Json)} (each : List.Forall₂ (fun f p => f.1 = p.1 ∧ R f.2 p.2) fields fs) :
    (keys fs).Nodup → ∀ p ∈ fs, ∃ shape, fields.lookup p.1 = some shape ∧ R shape p.2 := by
  induction each with
  | nil => exact fun _ p absent => absurd absent List.not_mem_nil
  | @cons field q fields fs head tail ih =>
    intro distinct p member
    obtain ⟨n, shape⟩ := field
    obtain ⟨named, holds⟩ := head
    simp only [keys, List.map_cons, List.nodup_cons] at distinct
    rcases List.mem_cons.mp member with rfl | later
    · simp only at named
      subst named
      exact ⟨shape, by simp [List.lookup], holds⟩
    · have other : (p.1 == n) = false :=
        beq_false_of_ne fun same => distinct.1 (named ▸ same ▸ List.mem_map_of_mem later)
      obtain ⟨found, declared, keeps⟩ := ih distinct.2 p later
      exact ⟨found, by simp [List.lookup, other, declared], keeps⟩

/-- A pairwise relation holds with the right-hand element a member. -/
lemma forall₂_with_mem {β γ : Type} {R : β → γ → Prop} :
    ∀ {xs : List β} {ys : List γ}, List.Forall₂ R xs ys →
      List.Forall₂ (fun x y => R x y ∧ y ∈ ys) xs ys
  | _, _, .nil => .nil
  | _, _, .cons head tail =>
    .cons ⟨head, List.mem_cons_self⟩
      ((forall₂_with_mem tail).imp fun _ _ ⟨holds, member⟩ => ⟨holds, List.mem_cons_of_mem _ member⟩)

/-- Members found for every declared field, in declaration order, fill the record as they
are. -/
lemma fillRecord_of_forall₂ {R : Shape → Json → Prop} {fields : List (String × Shape)}
    {fs : List (String × Json)} (each : List.Forall₂ (fun f p => f.1 = p.1 ∧ R f.2 p.2) fields fs)
    (distinct : (keys fs).Nodup) : fillRecord fields fs = .ok (.obj fs) := by
  unfold fillRecord
  rw [@mapM_of_forall₂ _ _ _ _ fs ?_]
  · rfl
  · -- each declared field finds its member under its own name
    refine (forall₂_with_mem each).imp ?_
    rintro ⟨n, shape⟩ p ⟨⟨named, -⟩, member⟩
    simp only at named
    subst named
    have present : fs.lookup p.1 = some p.2 := by
      rw [list_lookup_eq]
      exact lookup_of_mem distinct member
    simp [present, pure, Except.pure]

/-- After the tag, the other members of a tagged record are set aside in order. -/
lemma takeTag_of_untagged {tag t : String} {variants : List String} :
    ∀ {more acc : List (String × Json)}, tag ∉ keys more →
      takeTag tag variants more (some t) acc = .ok (t, acc ++ more)
  | [], acc, _ => by simp [takeTag, pure, Except.pure]
  | (k, v) :: more, acc, noTag => by
    simp only [keys, List.map_cons, List.mem_cons, not_or] at noTag
    have other : (k == tag) = false := beq_false_of_ne (Ne.symm noTag.1)
    simp only [takeTag, other, Bool.false_eq_true, if_false]
    rw [takeTag_of_untagged noTag.2]
    simp

lemma takeTag_first {tag t : String} {variants : List String} (known : t ∈ variants)
    {rest : List (String × Json)} (noTag : tag ∉ keys rest) :
    takeTag tag variants ((tag, .str t) :: rest) none [] = .ok (t, rest) := by
  rw [takeTag, beq_self_eq_true, if_pos rfl]
  simp [known, takeTag_of_untagged noTag]

namespace Shape.Keeps

lemma seq {xs : List Json} (each : ∀ x ∈ xs, Keeps item K x) : Keeps (.seq item) (K + 1) (.arr xs) :=
  of_succ fun src m fuel => by
    rw [conform_seq, conformItems_keeps each (by simp at fuel; omega)]
    rfl

lemma dict {fs : List (String × Json)} (each : ∀ p ∈ fs, Keeps item K p.2) (distinct : (keys fs).Nodup) :
    Keeps (.dict item) (K + 1) (.obj fs) :=
  of_succ fun src m fuel => by
    rw [conform_dict, conformDict_keeps each (by simpa using distinct) (by simp at fuel; omega)]
    rfl

/-- A record whose members are its declared fields, in order and each reading back, reads
back. -/
lemma record {name : String} {fields : List (String × Shape)} {fs : List (String × Json)}
    (each : List.Forall₂ (fun f p => f.1 = p.1 ∧ Keeps f.2 K p.2) fields fs)
    (distinct : (keys fs).Nodup) : Keeps (.record name fields) (K + 1) (.obj fs) :=
  of_succ fun src m fuel => by
    have found : conformMembers m src fields fs [] = .ok fs :=
      conformMembers_keeps (lookup_of_forall₂ each distinct) (by simpa using distinct)
        (by simp at fuel; omega)
    rw [conform_record, found]
    exact fillRecord_of_forall₂ (R := fun shape v => Keeps shape K v) each distinct

/-- A tagged record, its tag first and then the declared fields of the variant it names,
reads back. -/
lemma tagged {name tag t ident : String} {variants : List (String × String × List (String × Shape))}
    {fields : List (String × Shape)} {rest : List (String × Json)}
    (named : variants.find? (·.1 == t) = some (t, ident, fields))
    (each : List.Forall₂ (fun f p => f.1 = p.1 ∧ Keeps f.2 K p.2) fields rest)
    (distinct : (keys rest).Nodup) (noTag : tag ∉ keys rest) :
    Keeps (.tagged name tag variants) (K + 1) (.obj ((tag, .str t) :: rest)) :=
  of_succ fun src m fuel => by
    have known : t ∈ variants.map (·.1) :=
      List.mem_map_of_mem (f := (·.1)) (List.mem_of_find?_eq_some named)
    obtain ⟨m', rfl⟩ : ∃ m', m = m' + 1 := ⟨m - 1, by simp at fuel; omega⟩
    have found : conformMembers m' .buffered fields rest [] = .ok rest :=
      conformMembers_keeps (lookup_of_forall₂ each distinct) (by simpa using distinct)
        (by simp at fuel; omega)
    rw [conform_tagged, takeTag_first known noTag]
    show Shape.conformVariant (m' + 1) name tag variants t (.obj rest) = _
    exact conformVariant_obj named found
      (fillRecord_of_forall₂ (R := fun shape v => Keeps shape K v) each distinct)

end Shape.Keeps

end Collections

end Json

/-! ## Schemas the JSON form carries -/

namespace DefaultValue

/-- An integer default lies below `2 ^ 63`, as a 64-bit integer does; a larger one would read
back as a double. -/
def Fits : DefaultValue → Prop
  | .int n => n < 2 ^ 63
  | _ => True

/-- A double default is finite; a non-finite one is written `null`. -/
def Finite : DefaultValue → Prop
  | .float x => x.isFinite = true
  | _ => True

instance (d : DefaultValue) : Decidable d.Fits :=
  match d with
  | .int n => inferInstanceAs (Decidable (n < 2 ^ 63))
  | .bool _ | .float _ | .text _ => inferInstanceAs (Decidable True)

instance (d : DefaultValue) : Decidable d.Finite :=
  match d with
  | .float x => inferInstanceAs (Decidable (x.isFinite = true))
  | .bool _ | .int _ | .text _ => inferInstanceAs (Decidable True)

end DefaultValue

/-- What a table read from JSON always satisfies: each map holds a name once, and every
integer default is a 64-bit integer. -/
def Table.WellFormed (t : Table) : Prop :=
  t.columns.keys.Nodup ∧ t.indexes.keys.Nodup ∧ t.constraints.keys.Nodup ∧
    ∀ c ∈ t.columns.values, ∀ d ∈ c.default, d.Fits

/-- What a schema read from JSON always satisfies: each map holds a name once, and every table
is well formed. -/
def Schema.WellFormed (s : Schema) : Prop :=
  s.tables.keys.Nodup ∧ s.relationships.keys.Nodup ∧ s.tableGroups.keys.Nodup ∧
    s.enums.keys.Nodup ∧ s.extensions.keys.Nodup ∧ ∀ t ∈ s.tables.values, t.WellFormed

/-- Every double default of the schema is finite. -/
def Schema.FiniteDefaults (s : Schema) : Prop :=
  ∀ t ∈ s.tables.values, ∀ c ∈ t.columns.values, ∀ d ∈ c.default, d.Finite

instance (t : Table) : Decidable t.WellFormed :=
  inferInstanceAs (Decidable (t.columns.keys.Nodup ∧ t.indexes.keys.Nodup ∧
    t.constraints.keys.Nodup ∧ ∀ c ∈ t.columns.values, ∀ d ∈ c.default, d.Fits))

instance (s : Schema) : Decidable s.WellFormed :=
  inferInstanceAs (Decidable (s.tables.keys.Nodup ∧ s.relationships.keys.Nodup ∧
    s.tableGroups.keys.Nodup ∧ s.enums.keys.Nodup ∧ s.extensions.keys.Nodup ∧
      ∀ t ∈ s.tables.values, t.WellFormed))

instance (s : Schema) : Decidable s.FiniteDefaults :=
  inferInstanceAs (Decidable (∀ t ∈ s.tables.values, ∀ c ∈ t.columns.values,
    ∀ d ∈ c.default, d.Finite))

/-! ## Every part reads back through its shape -/

namespace SchemaShape

open Json Shape

variable {K : Nat}

lemma keeps_optionalText (o : Option String) : optionalText.Keeps (K + 2) (optText o) := by
  cases o with
  | none => exact Keeps.opt_null.fallback
  | some s => exact ((Keeps.text s).opt (by simp)).fallback

lemma keeps_flagField (b : Bool) : flagField.Keeps (K + 1) (.bool b) := (Keeps.flag b).fallback

lemma keeps_textList (xs : List String) : textList.Keeps (K + 1) (Schemata.textList xs) :=
  Keeps.seq fun x member => by
    obtain ⟨s, -, rfl⟩ := List.mem_map.mp member
    exact Keeps.text s

lemma keeps_actionField (a : Action) : actionField.Keeps (K + 1) (.str a.jsonName) :=
  (Keeps.keyword (by cases a <;> simp [Action.all, Action.jsonName])).fallback

@[simp] lemma weight_defaultValue_toJson (d : DefaultValue) : weight d.toJson = 1 := by
  cases d <;> simp only [DefaultValue.toJson, apply_ite] <;> simp [weight]

/-- A default reads back as its own kind: each kind fails the alternatives tried before it. -/
lemma keeps_defaultValue (d : DefaultValue) (fits : d.Fits) (finite : d.Finite) :
    defaultValue.Keeps 6 d.toJson :=
  Keeps.of_succ fun src m fuel => by
    obtain ⟨k, rfl⟩ : ∃ k, m = k + 5 + 1 := ⟨m - 6, by simp at fuel; omega⟩
    rw [defaultValue, conform_untagged]
    cases d with
    | bool b => exact conformFirst_take (conform_flag b)
    | int n =>
      by_cases sign : 0 ≤ n
      · -- a non-negative integer is written as a natural number, below `2 ^ 63`
        have small : n.toNat < 2 ^ 63 := by
          simp only [DefaultValue.Fits] at fits
          omega
        simp only [DefaultValue.toJson, sign, if_true]
        exact (conformFirst_skip rfl).trans
          (conformFirst_take (by rw [conform_int64_nat, if_pos small]))
      · simp only [DefaultValue.toJson, sign, if_false]
        exact (conformFirst_skip rfl).trans (conformFirst_take (conform_int64_negInt n))
    | float x =>
      simp only [DefaultValue.Finite] at finite
      simp only [DefaultValue.toJson, finite, if_true]
      exact (conformFirst_skip rfl).trans <| (conformFirst_skip rfl).trans <|
        conformFirst_take (conform_float64 _)
    | text s =>
      exact (conformFirst_skip rfl).trans <| (conformFirst_skip rfl).trans <|
        (conformFirst_skip rfl).trans <| conformFirst_take (conform_text s)

/-- A default that is written reads back; an absent one is `null`, which reads back as absent. -/
lemma keeps_defaultField (o : Option DefaultValue) :
    (∀ d ∈ o, d.Fits) → (∀ d ∈ o, d.Finite) →
      (Shape.fallback .null (.opt defaultValue)).Keeps 8
        (match o with | some d => d.toJson | none => .null) := by
  intro fits finite
  cases o with
  | none => exact Keeps.opt_null.fallback
  | some d =>
    have written : d.toJson ≠ .null := by
      cases d <;> simp_all [DefaultValue.toJson, DefaultValue.Finite]
      -- an integer is written as a number of either sign
      split <;> simp
    exact ((keeps_defaultValue d (fits d rfl) (finite d rfl)).opt written).fallback

lemma keeps_column (c : Column) (fits : ∀ d ∈ c.default, d.Fits)
    (finite : ∀ d ∈ c.default, d.Finite) : column.Keeps 9 c.toJson := by
  unfold column Column.toJson
  refine Keeps.record ?_ (by simp [keys])
  exact .cons ⟨rfl, Keeps.text _⟩ <| .cons ⟨rfl, Keeps.text _⟩ <|
    .cons ⟨rfl, keeps_defaultField _ fits finite⟩ <|
    .cons ⟨rfl, keeps_optionalText _⟩ <|
    .cons ⟨rfl, keeps_flagField _⟩ <| .cons ⟨rfl, keeps_flagField _⟩ <|
    .cons ⟨rfl, keeps_flagField _⟩ <|
    .cons ⟨rfl, keeps_optionalText _⟩ .nil

lemma keeps_index (i : Index) : index.Keeps 2 i.toJson := by
  unfold index Index.toJson
  refine Keeps.record ?_ (by simp [keys])
  exact .cons ⟨rfl, Keeps.text _⟩ <| .cons ⟨rfl, keeps_textList _⟩ <|
    .cons ⟨rfl, keeps_flagField _⟩ <| .cons ⟨rfl, (Keeps.text _).fallback⟩ .nil

lemma keeps_constraint (c : Constraint) : constraint.Keeps 2 c.toJson := by
  cases c with
  | primaryKey n cs =>
    refine Keeps.tagged rfl ?_ (by simp [keys]) (by simp [keys])
    exact .cons ⟨rfl, Keeps.text _⟩ <| .cons ⟨rfl, keeps_textList _⟩ .nil
  | unique n cs =>
    refine Keeps.tagged rfl ?_ (by simp [keys]) (by simp [keys])
    exact .cons ⟨rfl, Keeps.text _⟩ <| .cons ⟨rfl, keeps_textList _⟩ .nil
  | check n d =>
    refine Keeps.tagged rfl ?_ (by simp [keys]) (by simp [keys])
    exact .cons ⟨rfl, Keeps.text _⟩ <| .cons ⟨rfl, Keeps.text _⟩ .nil
  | foreignKey n cs t tcs u d =>
    refine Keeps.tagged rfl ?_ (by simp [keys]) (by simp [keys])
    exact .cons ⟨rfl, Keeps.text _⟩ <| .cons ⟨rfl, keeps_textList _⟩ <|
      .cons ⟨rfl, Keeps.text _⟩ <| .cons ⟨rfl, keeps_textList _⟩ <|
      .cons ⟨rfl, keeps_actionField _⟩ <| .cons ⟨rfl, keeps_actionField _⟩ .nil

/-- A map of distinct names whose values read back reads back, in its order. -/
lemma keeps_nameMap {α : Type} {item : Shape} {K : Nat} {enc : α → Json} (m : NameMap α)
    (distinct : m.keys.Nodup) (each : ∀ x ∈ m.values, item.Keeps K (enc x)) :
    (Shape.fallback emptyMap (.dict item)).Keeps (K + 2) (m.toJson enc) := by
  refine (Keeps.dict ?_ ?_).fallback
  · rintro ⟨k, y⟩ member
    obtain ⟨⟨k', x⟩, mem, same⟩ := List.mem_map.mp member
    cases same
    exact each x (List.mem_map_of_mem (f := Prod.snd) mem)
  · simpa [keys, NameMap.keys, Function.comp_def] using distinct

lemma keeps_table (t : Table) (wf : t.WellFormed)
    (finite : ∀ c ∈ t.columns.values, ∀ d ∈ c.default, d.Finite) : table.Keeps 12 t.toJson := by
  obtain ⟨columns, indexes, constraints, fits⟩ := wf
  unfold table Table.toJson
  refine Keeps.record ?_ (by simp [keys])
  exact .cons ⟨rfl, Keeps.text _⟩ <|
    .cons ⟨rfl, keeps_nameMap _ columns fun c mem => keeps_column c (fits c mem) (finite c mem)⟩ <|
    .cons ⟨rfl, (keeps_nameMap _ indexes fun i _ => keeps_index i).mono (by omega)⟩ <|
    .cons ⟨rfl, (keeps_nameMap _ constraints fun c _ => keeps_constraint c).mono (by omega)⟩ <|
    .cons ⟨rfl, keeps_optionalText _⟩ .nil

lemma keeps_relationship (r : Relationship) : relationship.Keeps 2 r.toJson := by
  unfold relationship Relationship.toJson
  refine Keeps.record ?_ (by simp [keys])
  have known : r.cardinality.jsonName ∈ ["ONE_TO_ONE", "ONE_TO_MANY"] := by
    cases r.cardinality <;> simp [Cardinality.jsonName]
  exact .cons ⟨rfl, Keeps.text _⟩ <| .cons ⟨rfl, Keeps.text _⟩ <|
    .cons ⟨rfl, Keeps.text _⟩ <| .cons ⟨rfl, Keeps.text _⟩ <|
    .cons ⟨rfl, Keeps.text _⟩ <| .cons ⟨rfl, (Keeps.keyword known).fallback⟩ <|
    .cons ⟨rfl, keeps_actionField _⟩ <| .cons ⟨rfl, keeps_actionField _⟩ .nil

lemma keeps_tableGroup (g : TableGroup) : tableGroup.Keeps 3 g.toJson := by
  unfold tableGroup TableGroup.toJson
  refine Keeps.record ?_ (by simp [keys])
  exact .cons ⟨rfl, Keeps.text _⟩ <| .cons ⟨rfl, (keeps_textList _).fallback⟩ <|
    .cons ⟨rfl, keeps_optionalText _⟩ .nil

lemma keeps_enumType (e : EnumType) : enumType.Keeps 3 e.toJson := by
  unfold enumType EnumType.toJson
  refine Keeps.record ?_ (by simp [keys])
  exact .cons ⟨rfl, Keeps.text _⟩ <| .cons ⟨rfl, (keeps_textList _).fallback⟩ <|
    .cons ⟨rfl, keeps_optionalText _⟩ .nil

lemma keeps_extension (e : Extension) : extension.Keeps 1 e.toJson :=
  Keeps.record (.cons ⟨rfl, Keeps.text _⟩ .nil) (by simp [keys])

lemma keeps_schema (s : Schema) (wf : s.WellFormed) (finite : s.FiniteDefaults) :
    schema.Keeps 15 s.toJson := by
  obtain ⟨tables, relationships, tableGroups, enums, extensions, each⟩ := wf
  unfold schema Schema.toJson
  refine Keeps.record ?_ (by simp [keys])
  exact .cons ⟨rfl, keeps_nameMap _ tables fun t mem => keeps_table t (each t mem) (finite t mem)⟩ <|
    .cons ⟨rfl, (keeps_nameMap _ relationships fun r _ => keeps_relationship r).mono (by omega)⟩ <|
    .cons ⟨rfl, (keeps_nameMap _ tableGroups fun g _ => keeps_tableGroup g).mono (by omega)⟩ <|
    .cons ⟨rfl, (keeps_nameMap _ enums fun e _ => keeps_enumType e).mono (by omega)⟩ <|
    .cons ⟨rfl, (keeps_nameMap _ extensions fun e _ => keeps_extension e).mono (by omega)⟩ .nil

end SchemaShape

/-! ## The canonical values convert back -/

namespace Canonical

@[simp] lemma members_obj (fs : List (String × Json)) : members (.obj fs) = fs := rfl

@[simp] lemma text_str (s : String) : text (.str s) = s := rfl

@[simp] lemma flag_bool (b : Bool) : flag (.bool b) = b := rfl

@[simp] lemma optText_optText (o : Option String) : optText (Schemata.optText o) = o := by
  cases o <;> rfl

@[simp] lemma texts_textList (xs : List String) : texts (Schemata.textList xs) = xs := by
  simp [texts, Schemata.textList, Function.comp_def]

@[simp] lemma action_jsonName (a : Action) : action (.str a.jsonName) = a := by
  cases a <;> rfl

@[simp] lemma cardinality_jsonName (c : Cardinality) : cardinality (.str c.jsonName) = c := by
  cases c <;> rfl

/-- A written default converts back to itself: a non-negative integer is written as a
natural number and converts back through the cast. -/
lemma defaultValue_toJson (d : DefaultValue) (finite : d.Finite) :
    defaultValue d.toJson = some d := by
  cases d with
  | int n =>
    by_cases sign : 0 ≤ n
    · simp [DefaultValue.toJson, defaultValue, sign, Int.toNat_of_nonneg sign]
    · simp [DefaultValue.toJson, defaultValue, sign]
  | float x =>
    simp only [DefaultValue.Finite] at finite
    simp [DefaultValue.toJson, defaultValue, finite]
  | bool b => rfl
  | text s => rfl

lemma nameMap_toJson {α : Type} {f : Json → α} {enc : α → Json} (m : NameMap α)
    (inverse : ∀ x ∈ m.values, f (enc x) = x) : nameMap f (m.toJson enc) = m := by
  obtain ⟨entries⟩ := m
  have each : ∀ p ∈ entries, (p.1, f (enc p.2)) = id p := fun ⟨k, x⟩ mem => by
    simp [inverse x (List.mem_map_of_mem (f := Prod.snd) mem)]
  simp only [nameMap, NameMap.toJson, members_obj, List.map_map, NameMap.mk.injEq]
  exact (List.map_congr_left each).trans (List.map_id entries)

lemma column_toJson (c : Column) (finite : ∀ d ∈ c.default, d.Finite) : column c.toJson = c := by
  obtain ⟨name, type, default, check, primary, notNull, unique, comment⟩ := c
  cases default with
  | none => simp [column, Column.toJson, field, Json.lookup, defaultValue]
  | some d =>
    simp [column, Column.toJson, field, Json.lookup, defaultValue_toJson d (finite d rfl)]

lemma constraint_toJson (c : Constraint) : constraint c.toJson = c := by
  cases c <;> simp [constraint, Constraint.toJson, field, Json.lookup]

@[simp] lemma index_toJson (i : Index) : index i.toJson = i := by
  simp [index, Index.toJson, field, Json.lookup]

lemma table_toJson (t : Table) (finite : ∀ c ∈ t.columns.values, ∀ d ∈ c.default, d.Finite) :
    table t.toJson = t := by
  have columns : nameMap column (t.columns.toJson Column.toJson) = t.columns :=
    nameMap_toJson _ fun c mem => column_toJson c (finite c mem)
  have indexes : nameMap index (t.indexes.toJson Index.toJson) = t.indexes :=
    nameMap_toJson _ fun i _ => index_toJson i
  have constraints : nameMap constraint (t.constraints.toJson Constraint.toJson) = t.constraints :=
    nameMap_toJson _ fun c _ => constraint_toJson c
  simp [table, Table.toJson, field, Json.lookup, columns, indexes, constraints]

@[simp] lemma relationship_toJson (r : Relationship) : relationship r.toJson = r := by
  simp [relationship, Relationship.toJson, field, Json.lookup]

@[simp] lemma tableGroup_toJson (g : TableGroup) : tableGroup g.toJson = g := by
  simp [tableGroup, TableGroup.toJson, field, Json.lookup]

@[simp] lemma enumType_toJson (e : EnumType) : enumType e.toJson = e := by
  simp [enumType, EnumType.toJson, field, Json.lookup]

@[simp] lemma extension_toJson (e : Extension) : extension e.toJson = e := by
  simp [extension, Extension.toJson, field, Json.lookup]

lemma schema_toJson (s : Schema) (finite : s.FiniteDefaults) : schema s.toJson = s := by
  have tables : nameMap table (s.tables.toJson Table.toJson) = s.tables :=
    nameMap_toJson _ fun t mem => table_toJson t (finite t mem)
  simp [schema, Schema.toJson, field, Json.lookup, tables, nameMap_toJson]

end Canonical

/-- **A schema reads back from its JSON form.** A schema whose maps hold each name once, whose
integer defaults are 64-bit integers and whose double defaults are finite is read back from
its JSON form as itself, every map in its order; so patching it with no operations gives it
back. -/
theorem Schema.toJson_roundTrip (s : Schema) (wf : s.WellFormed) (finite : s.FiniteDefaults) :
    Schema.ofJson? s.toJson = .ok s ∧ s.apply [] = .ok s := by
  have read : Schema.ofJson? s.toJson = .ok s := by
    rw [Schema.ofJson?, (SchemaShape.keeps_schema s wf finite).read (by omega)]
    simp [Except.map, Canonical.schema_toJson s finite]
  refine ⟨read, ?_⟩
  simp [Schema.apply, Json.applyPatch, Json.applyPatch.go, read]

/-- A table whose defaults are each read as the first kind that fits: an integral double, a
double beyond the 64-bit integers, texts that read like a number and a boolean, and a negative
integer. -/
def Schema.mixedDefaults : Schema :=
  Schema.empty.addTable <| (Table.new "measures")
    |>.addColumn { name := "ratio", type := "double", default := some (.float ⟨0x4000000000000000⟩) }
    |>.addColumn { name := "huge", type := "double", default := some (.float ⟨0x4415AF1D78B58C40⟩) }
    |>.addColumn { name := "code", type := "text", default := some (.text "42") }
    |>.addColumn { name := "flag", type := "text", default := some (.text "true") }
    |>.addColumn { name := "delta", type := "bigint", default := some (.int (-5)) }

theorem Schema.mixedDefaults_roundTrip :
    Schema.mixedDefaults.WellFormed ∧ Schema.mixedDefaults.FiniteDefaults ∧
      Schema.ofJson? Schema.mixedDefaults.toJson = .ok Schema.mixedDefaults ∧
      Schema.mixedDefaults.apply [] = .ok Schema.mixedDefaults := by
  have wf : Schema.mixedDefaults.WellFormed := by decide
  have finite : Schema.mixedDefaults.FiniteDefaults := by decide
  exact ⟨wf, finite, Schema.toJson_roundTrip _ wf finite⟩

end Schemata
