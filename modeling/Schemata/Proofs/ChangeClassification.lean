import Mathlib
import Schemata.Schema.Change
import Schemata.Proofs.PointerSegments

/-!
# How the operations of a patch classify a table or one of its items

`changeStatus` matches a path against a pattern on the raw text between its slashes and
unescapes only the table and the item it captures. The patch engine reads the same path the
other way round: it splits at every slash and unescapes every segment (`Pointer.segments?`).
The two readings agree on every path (`captures_eq_some_iff`): a pattern captures table `t`
and item `x` exactly when the engine reads the path as `tables`, `t` and the pattern's own
segments around `x`, with `t` and `x` non-empty. The fixed segments of the patterns
(`columns`, `name`, `notNull`, …) hold neither `~` nor `/`, and a raw segment unescapes to
such a text only when it is that text (`unescapeSegment_eq_plain`).

So the status of an object is the classification of the kinds of the operations the engine
reads as addressing it (`changeStatus_classifies`): a replace, or an add and a remove, modify
it; adds alone add it, removes alone remove it, and none leave it unchanged. No path matches
two patterns, and the status does not depend on the order of the operations or on repeated
ones.
-/

namespace Schemata

namespace Pointer

/-! ## Unescaping plain segments -/

/-- A text that reads as itself: it holds neither `~` nor `/`. -/
def Plain (s : String) : Prop := '~' ∉ s.toList ∧ '/' ∉ s.toList

instance (s : String) : Decidable (Plain s) := inferInstanceAs (Decidable (_ ∧ _))

lemma unescapeSlash_of_tilde_not_mem {cs : List Char} (h : '~' ∉ cs) : unescapeSlash cs = cs := by
  induction cs with
  | nil => rfl
  | cons c cs ih =>
    simp only [List.mem_cons, not_or] at h
    simp [unescapeSlash, Ne.symm h.1, ih h.2]

lemma unescapeTilde_of_tilde_not_mem {cs : List Char} (h : '~' ∉ cs) : unescapeTilde cs = cs := by
  induction cs with
  | nil => rfl
  | cons c cs ih =>
    simp only [List.mem_cons, not_or] at h
    simp [unescapeTilde, Ne.symm h.1, ih h.2]

/-- The first pass keeps every `~` it does not turn into a `/`. -/
lemma tilde_or_slash_mem_unescapeSlash {cs : List Char} (h : '~' ∈ cs) :
    '~' ∈ unescapeSlash cs ∨ '/' ∈ unescapeSlash cs := by
  fun_induction unescapeSlash cs with
  | case1 => simp at h
  | case2 rest ih => simp
  | case3 c rest _ ih =>
    rcases List.mem_cons.mp h with rfl | later
    · simp
    · rcases ih later with kept | turned
      · simp [kept]
      · simp [turned]

/-- The second pass keeps every `~` and every `/`, turning `~0` into `~`. -/
lemma mem_unescapeTilde {cs : List Char} {c : Char} (h : c ∈ cs) (special : c = '~' ∨ c = '/') :
    c ∈ unescapeTilde cs := by
  fun_induction unescapeTilde cs with
  | case1 => simp at h
  | case2 rest ih =>
    -- the `0` after the `~` is neither special character
    rcases List.mem_cons.mp h with rfl | h
    · simp
    · rcases List.mem_cons.mp h with rfl | later
      · simp at special
      · simp [ih later]
  | case3 d rest _ ih =>
    rcases List.mem_cons.mp h with rfl | later
    · simp
    · simp [ih later]

/-- A raw segment unescapes to a plain text only when it is that text. -/
lemma unescapeSegment_eq_plain {r s : String} (plain : Plain s) :
    unescapeSegment r = s ↔ r = s := by
  have selfRead : ∀ {t : String}, '~' ∉ t.toList → unescapeSegment t = t := fun h => by
    rw [unescapeSegment, unescapeSlash_of_tilde_not_mem h, unescapeTilde_of_tilde_not_mem h,
      String.ofList_toList]
  constructor
  · intro read
    -- a `~` in `r` would leave a `~` or a `/` in what it reads as
    have noTilde : '~' ∉ r.toList := by
      intro tilde
      have chars : unescapeTilde (unescapeSlash r.toList) = s.toList := by
        rw [← read, unescapeSegment, String.toList_ofList]
      rcases tilde_or_slash_mem_unescapeSlash tilde with kept | turned
      · exact plain.1 (chars ▸ mem_unescapeTilde kept (.inl rfl))
      · exact plain.2 (chars ▸ mem_unescapeTilde turned (.inr rfl))
    rw [← read, selfRead noTilde]
  · rintro rfl
    exact selfRead plain.1

lemma unescapeSlash_eq_nil {cs : List Char} : unescapeSlash cs = [] ↔ cs = [] := by
  cases cs with
  | nil => simp [unescapeSlash]
  | cons c cs =>
    simp only [reduceCtorEq, iff_false]
    unfold unescapeSlash
    split <;> simp_all

lemma unescapeTilde_eq_nil {cs : List Char} : unescapeTilde cs = [] ↔ cs = [] := by
  cases cs with
  | nil => simp [unescapeTilde]
  | cons c cs =>
    simp only [reduceCtorEq, iff_false]
    unfold unescapeTilde
    split <;> simp_all

@[simp] lemma unescapeSegment_eq_empty {r : String} : unescapeSegment r = "" ↔ r = "" := by
  rw [unescapeSegment, String.ofList_eq_empty_iff, unescapeTilde_eq_nil, unescapeSlash_eq_nil,
    String.toList_eq_nil_iff]

end Pointer

namespace PathPattern

/-! ## The two readings of a path -/

/-- The segments a pattern asks for after the table's, around the item `x`. -/
def shape (p : PathPattern) (x : String) : List String :=
  match p.layout with
  | (none, none) => []
  | (none, some f) => [f]
  | (some s, none) => [s, x]
  | (some s, some f) => [s, x, f]

/-- Whether a pattern names an item of the table. -/
def hasItem (p : PathPattern) : Bool := p.layout.1.isSome

/-- The fixed segments of every pattern read as themselves. -/
lemma layout_plain (p : PathPattern) :
    (∀ s ∈ p.layout.1, Pointer.Plain s) ∧ ∀ f ∈ p.layout.2, Pointer.Plain f := by
  cases p <;> simp only [layout, Option.mem_def, Option.some.injEq, forall_eq', reduceCtorEq,
    false_implies, implies_true, true_and, and_true] <;> decide

lemma map_unescape_shape (p : PathPattern) (x : String) :
    (p.shape x).map Pointer.unescapeSegment = p.shape (Pointer.unescapeSegment x) := by
  obtain ⟨collection, field⟩ := layout_plain p
  rcases hl : p.layout with ⟨_ | s, _ | f⟩ <;> rw [hl] at collection field <;>
    simp [shape, hl, (Pointer.unescapeSegment_eq_plain (collection s rfl)).mpr,
      (Pointer.unescapeSegment_eq_plain (field f rfl)).mpr]

/-- Raw segments that unescape to a pattern's segments are the pattern's segments around a raw
item. -/
lemma exists_shape_of_map_unescape {p : PathPattern} {rest : List String} {x : String}
    (h : rest.map Pointer.unescapeSegment = p.shape x) :
    ∃ rx, rest = p.shape rx ∧ (p.hasItem = true → Pointer.unescapeSegment rx = x) := by
  obtain ⟨collection, field⟩ := layout_plain p
  have fixed : ∀ {r t : String}, Pointer.Plain t → Pointer.unescapeSegment r = t → r = t :=
    fun plain read => (Pointer.unescapeSegment_eq_plain plain).mp read
  rcases hl : p.layout with ⟨_ | s, _ | f⟩ <;> rw [hl] at collection field <;>
    simp only [shape, hasItem, hl] at h ⊢ <;>
    rcases rest with _ | ⟨a, _ | ⟨b, _ | ⟨c, _ | ⟨d, rest⟩⟩⟩⟩ <;>
    simp only [List.map_cons, List.map_nil, List.cons.injEq, reduceCtorEq, and_false,
      and_true] at h
  · exact ⟨"", rfl, by simp⟩
  · exact ⟨"", by rw [fixed (field f rfl) h], by simp⟩
  · exact ⟨b, by rw [fixed (collection s rfl) h.1], fun _ => h.2⟩
  · exact ⟨b, by rw [fixed (collection s rfl) h.1, fixed (field f rfl) h.2.2], fun _ => h.2.1⟩

/-- The patch engine reads the raw segments of a path, each unescaped. -/
lemma segments?_of_rawSegments {path : String} {raws : List String}
    (h : rawSegments path = some raws) :
    Pointer.segments? path = some (raws.map Pointer.unescapeSegment) := by
  unfold rawSegments at h
  split at h
  · rename_i rest chars
    cases h
    simp [Pointer.segments?, chars, Pointer.unescapeSegment, String.toList_ofList]
  · cases h

lemma rawSegments_of_segments? {path s : String} {segs : List String}
    (h : Pointer.segments? path = some (s :: segs)) :
    ∃ raws, rawSegments path = some raws ∧ raws.map Pointer.unescapeSegment = s :: segs := by
  unfold Pointer.segments? at h
  split at h
  · cases h
  · rename_i rest chars
    refine ⟨(Pointer.splitSlash rest).map String.ofList, by simp [rawSegments, chars], ?_⟩
    rw [← Option.some.inj h]
    simp [Pointer.unescapeSegment, String.toList_ofList, Function.comp_def]
  · cases h

/-- **The pattern's reading.** A pattern captures table `table` and item `item` from the raw
segments `tables`, a non-empty table segment and the pattern's segments around a raw item,
non-empty when the pattern has one; the table and item are those segments unescaped. -/
lemma captures_eq_some_iff_raw {p : PathPattern} {path table : String} {item : Option String} :
    p.captures path = some (table, item) ↔
      ∃ rt rx, rawSegments path = some ("tables" :: rt :: p.shape rx) ∧ rt ≠ "" ∧
        (p.hasItem = true → rx ≠ "") ∧ table = Pointer.unescapeSegment rt ∧
        item = if p.hasItem then some (Pointer.unescapeSegment rx) else none := by
  constructor
  · intro h
    unfold captures at h
    split at h
    · rename_i rt rest raw
      split at h
      · cases h
      · rename_i nonempty
        have filled : rt ≠ "" := by simpa using nonempty
        rcases hl : p.layout with ⟨_ | s, _ | f⟩ <;> rw [hl] at h <;>
          rcases rest with _ | ⟨a, _ | ⟨b, _ | ⟨c, _ | ⟨d, rest⟩⟩⟩⟩ <;>
          simp only [reduceCtorEq, Option.some.injEq, Prod.mk.injEq,
            Bool.and_eq_true, beq_iff_eq, Bool.not_eq_true', String.isEmpty_eq_false_iff] at h
        · obtain ⟨rfl, rfl⟩ := h
          exact ⟨rt, "", by simp [raw, shape, hl], filled, by simp [hasItem, hl], rfl,
            by simp [hasItem, hl]⟩
        · split at h
          · obtain ⟨rfl, rfl⟩ := h
            rename_i same
            exact ⟨rt, "", by simp [raw, shape, hl, same], filled, by simp [hasItem, hl], rfl,
              by simp [hasItem, hl]⟩
          · cases h
        · split at h
          · obtain ⟨rfl, rfl⟩ := h
            rename_i same
            obtain ⟨collection, named⟩ := same
            exact ⟨rt, b, by simp [raw, shape, hl, collection], filled,
              fun _ => by simpa using named, rfl, by simp [hasItem, hl]⟩
          · cases h
        · split at h
          · obtain ⟨rfl, rfl⟩ := h
            rename_i same
            obtain ⟨⟨collection, field⟩, named⟩ := same
            exact ⟨rt, b, by simp [raw, shape, hl, collection, field], filled,
              fun _ => by simpa using named, rfl, by simp [hasItem, hl]⟩
          · cases h
    · cases h
  · rintro ⟨rt, rx, raw, filled, named, rfl, rfl⟩
    have nonempty : rt.isEmpty = false := by simpa using filled
    rcases hl : p.layout with ⟨_ | s, _ | f⟩ <;>
      simp [captures, raw, shape, hasItem, hl, nonempty] at named ⊢
    · simpa using named
    · simpa using named

/-- **The two readings agree.** A pattern captures table `table` and item `item` from a path
exactly when the patch engine reads the path as `tables`, `table` and the pattern's own
segments around some `x`, with `table` non-empty, `x` non-empty when the pattern has an item,
and `item` that `x` (none for a pattern without an item). -/
theorem captures_eq_some_iff {p : PathPattern} {path table : String} {item : Option String} :
    p.captures path = some (table, item) ↔
      table ≠ "" ∧ ∃ x, Pointer.segments? path = some (["tables", table] ++ p.shape x) ∧
        (p.hasItem = true → x ≠ "") ∧ item = if p.hasItem then some x else none := by
  have tables : Pointer.Plain "tables" := by decide
  rw [captures_eq_some_iff_raw]
  constructor
  · rintro ⟨rt, rx, raw, filled, named, rfl, rfl⟩
    refine ⟨by simpa using filled, Pointer.unescapeSegment rx, ?_,
      fun has => by simpa using named has,
      rfl⟩
    rw [segments?_of_rawSegments raw]
    simp [map_unescape_shape, (Pointer.unescapeSegment_eq_plain tables).mpr]
  · rintro ⟨filled, x, read, named, rfl⟩
    obtain ⟨raws, raw, unescaped⟩ := rawSegments_of_segments? read
    obtain ⟨r0, rest, rfl, read0, tail⟩ := List.map_eq_cons_iff.mp unescaped
    obtain ⟨rt, rest', rfl, readT, shaped⟩ := List.map_eq_cons_iff.mp tail
    obtain ⟨rx, rfl, readX⟩ := exists_shape_of_map_unescape shaped
    rw [(Pointer.unescapeSegment_eq_plain tables).mp read0] at raw
    refine ⟨rt, rx, raw, fun empty => filled (readT ▸ Pointer.unescapeSegment_eq_empty.mpr empty),
      fun has => ?_, readT.symm, ?_⟩
    · rintro rfl
      exact named has (by simp [← readX has])
    · cases has : p.hasItem <;> simp [has, readX]

/-! ## No path matches two patterns -/

/-- The layout a list of pattern segments comes from. -/
def layoutOfShape : List String → Option String × Option String
  | [] => (none, none)
  | [f] => (none, some f)
  | [s, _] => (some s, none)
  | s :: _ :: f :: _ => (some s, some f)

lemma layoutOfShape_shape (p : PathPattern) (x : String) :
    layoutOfShape (p.shape x) = p.layout := by
  rcases hl : p.layout with ⟨_ | s, _ | f⟩ <;> simp [shape, hl, layoutOfShape]

/-- Every pattern is listed. -/
lemma mem_all (p : PathPattern) : p ∈ all := by
  cases p <;> simp [all]

/-- The listed patterns have distinct layouts. -/
lemma nodup_map_layout_all : (all.map layout).Nodup := by
  decide

lemma layout_injective : Function.Injective layout := fun p q same =>
  List.inj_on_of_nodup_map nodup_map_layout_all (mem_all p) (mem_all q) same

/-- At most one pattern captures any path. -/
lemma eq_of_captures {q r : PathPattern} {path : String} (hq : (q.captures path).isSome)
    (hr : (r.captures path).isSome) : q = r := by
  obtain ⟨⟨t, i⟩, hq⟩ := Option.isSome_iff_exists.mp hq
  obtain ⟨⟨t', i'⟩, hr⟩ := Option.isSome_iff_exists.mp hr
  obtain ⟨rt, rx, rawq, -⟩ := captures_eq_some_iff_raw.mp hq
  obtain ⟨rt', rx', rawr, -⟩ := captures_eq_some_iff_raw.mp hr
  have same : q.shape rx = r.shape rx' := by
    have reads := rawq.symm.trans rawr
    simp only [Option.some.injEq, List.cons.injEq, true_and] at reads
    exact reads.2
  apply layout_injective
  rw [← layoutOfShape_shape q rx, same, layoutOfShape_shape]

end PathPattern

/-! ## The status of an object -/

namespace PatchOp

/-- What an operation does at its path. -/
inductive Kind where
  | add | remove | replace
deriving DecidableEq, Repr

def kind : PatchOp → Kind
  | .add .. => .add
  | .remove .. => .remove
  | .replace .. => .replace

lemma Kind.forall {P : Kind → Prop} : (∀ k, P k) ↔ P .add ∧ P .remove ∧ P .replace :=
  ⟨fun h => ⟨h _, h _, h _⟩, fun ⟨a, r, p⟩ k => by cases k <;> assumption⟩

/-- Two sets of kinds are equal when they agree on the three kinds. -/
lemma Kind.set_eq_iff {K L : Set Kind} :
    K = L ↔ (.add ∈ K ↔ .add ∈ L) ∧ (.remove ∈ K ↔ .remove ∈ L) ∧
      (.replace ∈ K ↔ .replace ∈ L) := by
  rw [Set.ext_iff, Kind.forall]

end PatchOp

namespace ChangeStatus

/-- The status a set of operation kinds gives an object: a replace, or both an add and a
remove, modify it; adds alone add it, removes alone remove it, and none leave it unchanged. -/
def Classifies (K : Set PatchOp.Kind) : ChangeStatus → Prop
  | .modified => .replace ∈ K ∨ (.add ∈ K ∧ .remove ∈ K)
  | .added => K = {.add}
  | .removed => K = {.remove}
  | .unchanged => K = ∅

/-- A set of kinds is classified at most one way. -/
lemma Classifies.unique {K : Set PatchOp.Kind} {s s' : ChangeStatus} (h : s.Classifies K)
    (h' : s'.Classifies K) : s = s' := by
  cases s <;> cases s' <;>
    simp only [Classifies, PatchOp.Kind.set_eq_iff, Set.mem_singleton_iff, Set.mem_empty_iff_false,
      reduceCtorEq, iff_true, iff_false] at h h' ⊢ <;> tauto

end ChangeStatus

/-- The patch engine reads operation `op` as addressing table `table` (and item `item`, when
given) under pattern `p`: it reads the path as `tables`, `table` and the pattern's segments
around some `x`, non-empty when the pattern has an item and that item when one is given. A
pattern without an item addresses no given item. -/
def Addresses (table : String) (p : PathPattern) (item : Option String) (op : PatchOp) : Prop :=
  table ≠ "" ∧ ∃ x, Pointer.segments? op.path = some (["tables", table] ++ p.shape x) ∧
    (p.hasItem = true → x ≠ "") ∧ ∀ id, item = some id → p.hasItem = true ∧ x = id

/-- The kinds of the operations of `ops` that the engine reads as addressing the object. -/
def addressedKinds (table : String) (p : PathPattern) (item : Option String)
    (ops : List PatchOp) : Set PatchOp.Kind :=
  {k | ∃ op ∈ ops, Addresses table p item op ∧ op.kind = k}

lemma addresses_iff_captures {table : String} {p : PathPattern} {item : Option String}
    {op : PatchOp} :
    Addresses table p item op ↔
      ∃ i, p.captures op.path = some (table, i) ∧ ∀ id, item = some id → i = some id := by
  simp only [Addresses, PathPattern.captures_eq_some_iff]
  constructor
  · rintro ⟨filled, x, read, named, given⟩
    refine ⟨_, ⟨filled, x, read, named, rfl⟩, fun id hid => ?_⟩
    obtain ⟨has, rfl⟩ := given id hid
    simp [has]
  · rintro ⟨i, ⟨filled, x, read, named, rfl⟩, given⟩
    refine ⟨filled, x, read, named, fun id hid => ?_⟩
    have captured := given id hid
    cases has : p.hasItem <;> simp_all

/-- A test of the addressing operations for one kind passes when that kind is addressed. -/
lemma any_iff_mem_addressedKinds {table : String} {p : PathPattern} {item : Option String}
    {ops matching : List PatchOp} {f : PatchOp → Bool} {k : PatchOp.Kind}
    (tests : ∀ op, f op = true ↔ op.kind = k)
    (members : ∀ op, op ∈ matching ↔ op ∈ ops ∧ Addresses table p item op) :
    matching.any f = true ↔ k ∈ addressedKinds table p item ops := by
  simp only [List.any_eq_true, tests, members, addressedKinds, Set.mem_ofPred_eq, and_assoc]

lemma classifies_changeStatus (table : String) (ops : List PatchOp) (p : PathPattern)
    (item : Option String) :
    (changeStatus table ops p item).Classifies (addressedKinds table p item ops) := by
  unfold changeStatus
  generalize hM : List.filter _ ops = matching
  have members : ∀ op, op ∈ matching ↔ op ∈ ops ∧ Addresses table p item op := by
    intro op
    rw [← hM]
    simp only [List.mem_filter, addresses_iff_captures]
    refine and_congr_right fun _ => ?_
    split
    · rename_i t i found
      cases item <;> simp [found]
    · rename_i missing
      simp [missing]
  dsimp only
  -- the three tests are abstracted in the order the condition reads them
  generalize hP : matching.any _ = replaced
  generalize hA : matching.any _ = added
  generalize hR : matching.any _ = removed
  have replacedIff := hP ▸ any_iff_mem_addressedKinds (k := .replace)
    (by intro op; cases op <;> simp [PatchOp.kind]) members
  have addedIff := hA ▸ any_iff_mem_addressedKinds (k := .add)
    (by intro op; cases op <;> simp [PatchOp.kind]) members
  have removedIff := hR ▸ any_iff_mem_addressedKinds (k := .remove)
    (by intro op; cases op <;> simp [PatchOp.kind]) members
  cases replaced <;> cases added <;> cases removed <;>
    simp only [Bool.or_false, Bool.or_true, Bool.and_false, Bool.and_true, Bool.false_eq_true,
      ↓reduceIte, ChangeStatus.Classifies,
      PatchOp.Kind.set_eq_iff, Set.mem_singleton_iff, Set.mem_empty_iff_false, reduceCtorEq,
      iff_true, iff_false, true_iff, false_iff] at replacedIff addedIff removedIff ⊢ <;> tauto

/-- **Change classification agrees with the patch engine.** The status of table `table` (and
item `item`) under pattern `p` is the one that the kinds of the operations the engine reads as
addressing it classify. No path is captured by two patterns, and the status depends only on
which operations the patch holds, not on their order or on repeats. -/
theorem changeStatus_classifies (table : String) (item : Option String) (p : PathPattern)
    (ops : List PatchOp) :
    (∀ s, changeStatus table ops p item = s ↔ s.Classifies (addressedKinds table p item ops)) ∧
    (∀ (path : String) (q r : PathPattern),
      (q.captures path).isSome → (r.captures path).isSome → q = r) ∧
    ∀ ops' : List PatchOp, (∀ op, op ∈ ops' ↔ op ∈ ops) →
      changeStatus table ops' p item = changeStatus table ops p item := by
  have classified := classifies_changeStatus table ops p item
  refine ⟨fun s => ⟨?_, classified.unique⟩, fun _ _ _ => PathPattern.eq_of_captures,
    fun ops' same => ?_⟩
  · rintro rfl
    exact classified
  · have kinds : addressedKinds table p item ops' = addressedKinds table p item ops := by
      simp [addressedKinds, same]
    have reclassified := classifies_changeStatus table ops' p item
    rw [kinds] at reclassified
    exact reclassified.unique classified

/-- Escaped segments: `~1` reads as `/` and `~0` as `~` in both the table and the item. -/
example : changeStatus "t/x" [.add "/tables/t~1x/columns/a~0b" .null] .columnBase (some "a~b") =
    .added := by
  decide

end Schemata
