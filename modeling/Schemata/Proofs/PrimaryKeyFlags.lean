import Mathlib
import Schemata.Proofs.StatementsRead
import Schemata.Proofs.NamedEntries

/-!
# Primary-key flags agree with primary keys

A column carries `primary` and `notNull` flags, and its table holds its primary keys among its
constraints. The DDL renderer reads both: it writes a primary key inline on the column it
names, and a table without a primary key constraint gets one from its columns flagged primary.
The two agree (`Table.PrimaryFlagsAgree`) when a column is flagged primary exactly when a
primary key of its table names it, and is then flagged not null.

Reading PostgreSQL DDL keeps them in agreement as long as the text redefines nothing a key
depends on (`parsePostgres_primary_flags`):

* every CREATE TABLE declares its constraints under distinct names (`Statement.NamesDistinct`);
* no constraint is stored under a name its table already holds, and ALTER TABLE adds only
  columns its table lacks and no primary key names (`FreshRun`).

Without these the agreement fails: a column added again by ALTER TABLE loses the flags its
primary key set, and a constraint stored under a primary key's name drops the key and leaves
its columns flagged.

The argument follows the lowering. A CREATE TABLE adds its columns, each flagged primary only
together with a primary key declared on it, and then its constraints one by one, each marking
the columns it names; between the two, the table agrees once the constraints still to come are
added (`Table.AgreesAwaiting`). Every fragment then keeps the agreement of the schema
(`ConvertState.absorb_primaryFlagsAgree`), and so does the whole reading.
-/

namespace Schemata

namespace NameMap

variable {α : Type} {P Q : String → α → Prop} {m : NameMap α} {k : String} {v : α}

lemma Forall.imp (h : m.Forall P) (hPQ : ∀ k v, P k v → Q k v) : m.Forall Q :=
  fun e member => hPQ e.1 e.2 (h e member)

/-- An entry after changing the value of a name: changed if it has that name, else as it was. -/
lemma mem_modify {f : α → α} {e : String × α} (h : e ∈ (m.modify k f).entries) :
    ∃ v, (e.1, v) ∈ m.entries ∧ e.2 = if e.1 = k then f v else v := by
  obtain ⟨⟨k', v'⟩, old, rfl⟩ := List.mem_map.mp h
  by_cases same : k' = k
  · subst same
    exact ⟨v', by simpa using old, by simp⟩
  · exact ⟨v', by simpa [same] using old, by simp [same]⟩

lemma Forall.modify_of_mem {f : α → α} (h : m.Forall P)
    (hf : ∀ v, (k, v) ∈ m.entries → P k v → P k (f v)) : (m.modify k f).Forall P := by
  intro e member
  obtain ⟨v, old, changed⟩ := mem_modify member
  rw [changed]
  split
  · next same =>
    rw [same] at old ⊢
    exact hf v old (h _ old)
  · exact h _ old

lemma insertEntries_of_fresh :
    ∀ {es : List (String × α)}, es.any (·.1 == k) = false → insertEntries k v es = es ++ [(k, v)]
  | [], _ => rfl
  | (k', v') :: rest, fresh => by
    simp only [List.any_cons, Bool.or_eq_false_iff] at fresh
    simp only [insertEntries, fresh.1, insertEntries_of_fresh fresh.2, List.cons_append]
    rfl

/-- A name the map does not hold is appended. -/
lemma entries_insert_of_fresh (fresh : m.contains k = false) :
    (m.insert k v).entries = m.entries ++ [(k, v)] :=
  insertEntries_of_fresh fresh

lemma contains_insert_of_fresh {k' : String} (fresh : m.contains k = false) :
    (m.insert k v).contains k' = (m.contains k' || k == k') := by
  simp [contains, entries_insert_of_fresh fresh]

lemma mem_values : v ∈ m.values ↔ ∃ k, (k, v) ∈ m.entries := by
  simp [values]

end NameMap

/-! ## Tables whose flags agree with their keys -/

namespace Table

open NameMap

/-- One of the table's primary keys names the column `n`. -/
def InPrimaryKey (t : Table) (n : String) : Prop :=
  ∃ p ∈ t.constraints.values, p.isPrimaryKey = true ∧ n ∈ p.columnNames

instance (t : Table) (n : String) : Decidable (t.InPrimaryKey n) :=
  inferInstanceAs (Decidable (∃ p ∈ t.constraints.values, p.isPrimaryKey = true ∧ n ∈ p.columnNames))

/-- **The primary-key flags agree with the primary keys**: a column is flagged primary exactly
when a primary key of the table names it, and a column a primary key names is flagged not
null. -/
def PrimaryFlagsAgree (t : Table) : Prop :=
  t.columns.Forall fun n c => (c.primary = true ↔ t.InPrimaryKey n) ∧ (t.InPrimaryKey n → c.notNull = true)

/-- The column `c` stored under `n` agrees with the primary keys of `t` once the constraints of
`pending` are stored: flagged primary, a key of `t` or of `pending` names it; named by a key of
`t`, it is flagged primary and not null. -/
def FlagsAwait (t : Table) (pending : List Constraint) (n : String) (c : Column) : Prop :=
  (c.primary = true → t.InPrimaryKey n ∨ ∃ p ∈ pending, p.isPrimaryKey = true ∧ n ∈ p.columnNames) ∧
    (t.InPrimaryKey n → c.primary = true ∧ c.notNull = true)

/-- Every column of the table agrees with its primary keys once `pending` is stored. -/
def AgreesAwaiting (t : Table) (pending : List Constraint) : Prop :=
  t.columns.Forall (t.FlagsAwait pending)

variable {t : Table} {pending : List Constraint}

lemma agreesAwaiting_nil : t.AgreesAwaiting [] ↔ t.PrimaryFlagsAgree := by
  unfold AgreesAwaiting PrimaryFlagsAgree FlagsAwait NameMap.Forall
  constructor
  · intro h e member
    obtain ⟨flagged, named⟩ := h e member
    exact ⟨⟨fun primary => by simpa using flagged primary, fun key => (named key).1⟩,
      fun key => (named key).2⟩
  · intro h e member
    obtain ⟨⟨flagged, named⟩, notNull⟩ := h e member
    exact ⟨fun primary => .inl (flagged primary), fun key => ⟨named key, notNull key⟩⟩

lemma AgreesAwaiting.mono {more : List Constraint} (h : t.AgreesAwaiting pending)
    (sub : pending ⊆ more) : t.AgreesAwaiting more :=
  Forall.imp h fun _ _ ⟨flagged, named⟩ =>
    ⟨fun primary => (flagged primary).imp_right fun ⟨p, member, key⟩ => ⟨p, sub member, key⟩, named⟩

lemma inPrimaryKey_addConstraint {c : Constraint} {n : String}
    (fresh : t.constraints.contains c.name = false) :
    (t.addConstraint c).InPrimaryKey n ↔ t.InPrimaryKey n ∨ (c.isPrimaryKey = true ∧ n ∈ c.columnNames) := by
  unfold InPrimaryKey addConstraint values
  rw [entries_insert_of_fresh fresh]
  simp [or_and_right, exists_or]

/-- Storing a constraint under a fresh name keeps the agreement, the constraint no longer
pending, when the columns it names as a primary key are flagged. -/
lemma AgreesAwaiting.addConstraint {c : Constraint} (h : t.AgreesAwaiting (c :: pending))
    (fresh : t.constraints.contains c.name = false)
    (flagged : c.isPrimaryKey = true → ∀ n ∈ c.columnNames, ∀ col, (n, col) ∈ t.columns.entries →
      col.primary = true ∧ col.notNull = true) :
    (t.addConstraint c).AgreesAwaiting pending := by
  intro e member
  obtain ⟨wasFlagged, wasNamed⟩ := h e member
  refine ⟨fun primary => ?_, fun key => ?_⟩
  · rw [inPrimaryKey_addConstraint fresh]
    rcases wasFlagged primary with key | ⟨p, awaited, named⟩
    · exact .inl (.inl key)
    · rcases List.mem_cons.mp awaited with rfl | later
      · exact .inl (.inr named)
      · exact .inr ⟨p, later, named⟩
  · rcases (inPrimaryKey_addConstraint fresh).mp key with key | ⟨primaryKey, named⟩
    · exact wasNamed key
    · exact flagged primaryKey e.1 named e.2 member

lemma AgreesAwaiting.addColumn {c : Column} (h : t.AgreesAwaiting pending)
    (hc : t.FlagsAwait pending c.name c) : (t.addColumn c).AgreesAwaiting pending :=
  Forall.insert h hc

lemma PrimaryFlagsAgree.modifyColumn {n : String} {f : Column → Column} (h : t.PrimaryFlagsAgree)
    (keeps : ∀ c, (f c).primary = c.primary ∧ (f c).notNull = c.notNull) :
    (t.modifyColumn n f).PrimaryFlagsAgree :=
  Forall.modify h fun c agrees => by
    rw [(keeps c).1, (keeps c).2]
    exact agrees

end Table

/-! ## Marking the columns of a key -/

namespace Sql

open NameMap Table

variable {t : Table}

lemma mem_foldl_modifyColumn {g : Column → Column}
    (flags : ∀ col, (g col).primary = true ∧ (g col).notNull = true) (ns : List String) :
    ∀ {t : Table} {e : String × Column}, e ∈ (ns.foldl (fun t n => t.modifyColumn n g) t).columns.entries →
      ∃ col, (e.1, col) ∈ t.columns.entries ∧ (e.2.primary = true ↔ col.primary = true ∨ e.1 ∈ ns) ∧
        (e.2.notNull = true ↔ col.notNull = true ∨ e.1 ∈ ns) := by
  induction ns with
  | nil => exact fun {_ e} member => ⟨e.2, member, by simp, by simp⟩
  | cons n rest ih =>
    intro t e member
    obtain ⟨col₁, mem₁, primary₁, notNull₁⟩ := ih member
    obtain ⟨col, old, changed⟩ := mem_modify mem₁
    refine ⟨col, old, ?_, ?_⟩
    · split at changed
      · simp_all
      · simp_all
    · split at changed
      · simp_all
      · simp_all

lemma foldl_modifyColumn_constraints (g : Column → Column) (ns : List String) :
    ∀ {t : Table}, (ns.foldl (fun t n => t.modifyColumn n g) t).constraints = t.constraints := by
  induction ns with
  | nil => exact rfl
  | cons n rest ih => exact ih

lemma markColumns_constraints (c : Constraint) : (markColumns t c).constraints = t.constraints := by
  cases c with
  | primaryKey name columns => exact foldl_modifyColumn_constraints _ columns
  | unique name columns =>
    rcases columns with _ | ⟨n, _ | ⟨m, rest⟩⟩ <;> rfl
  | check => rfl
  | foreignKey => rfl

/-- What marking does to a column: a primary key flags the columns it names primary and not
null; no other flag of theirs and no other column changes in these two. -/
lemma mem_markColumns {c : Constraint} {e : String × Column}
    (h : e ∈ (markColumns t c).columns.entries) :
    ∃ col, (e.1, col) ∈ t.columns.entries ∧
      (e.2.primary = true ↔ col.primary = true ∨ (c.isPrimaryKey = true ∧ e.1 ∈ c.columnNames)) ∧
      (e.2.notNull = true ↔ col.notNull = true ∨ (c.isPrimaryKey = true ∧ e.1 ∈ c.columnNames)) := by
  cases c with
  | primaryKey name columns =>
    simpa [Constraint.isPrimaryKey, Constraint.columnNames] using
      mem_foldl_modifyColumn (fun _ => ⟨rfl, rfl⟩) columns h
  | unique name columns =>
    rcases columns with _ | ⟨n, _ | ⟨m, rest⟩⟩
    · exact ⟨e.2, h, by simp [Constraint.isPrimaryKey], by simp [Constraint.isPrimaryKey]⟩
    · obtain ⟨col, old, changed⟩ := mem_modify h
      refine ⟨col, old, ?_, ?_⟩ <;> (split at changed <;> simp [changed, Constraint.isPrimaryKey])
    · exact ⟨e.2, h, by simp [Constraint.isPrimaryKey], by simp [Constraint.isPrimaryKey]⟩
  | check => exact ⟨e.2, h, by simp [Constraint.isPrimaryKey], by simp [Constraint.isPrimaryKey]⟩
  | foreignKey => exact ⟨e.2, h, by simp [Constraint.isPrimaryKey], by simp [Constraint.isPrimaryKey]⟩

/-- Marking the columns of a constraint and storing it under a fresh name keeps the agreement,
the constraint no longer pending. -/
lemma agreesAwaiting_markAdd {pending : List Constraint} {c : Constraint}
    (h : t.AgreesAwaiting (c :: pending)) (fresh : t.constraints.contains c.name = false) :
    ((markColumns t c).addConstraint c).AgreesAwaiting pending := by
  have kept : (markColumns t c).constraints = t.constraints := markColumns_constraints c
  have sameKeys : ∀ n, (markColumns t c).InPrimaryKey n ↔ t.InPrimaryKey n := by
    intro n
    unfold InPrimaryKey
    rw [kept]
  refine Table.AgreesAwaiting.addConstraint ?_ (kept ▸ fresh) ?_
  · -- marking only raises flags, and the flags it raises are those of the pending constraint
    intro e member
    obtain ⟨col, old, primary, notNull⟩ := mem_markColumns member
    obtain ⟨wasFlagged, wasNamed⟩ := h _ old
    refine ⟨fun flagged => ?_, fun key => ?_⟩
    · rw [sameKeys]
      rcases primary.mp flagged with flagged | named
      · exact wasFlagged flagged
      · exact .inr ⟨c, List.mem_cons_self, named⟩
    · obtain ⟨p₀, n₀⟩ := wasNamed ((sameKeys e.1).mp key)
      exact ⟨primary.mpr (.inl p₀), notNull.mpr (.inl n₀)⟩
  · intro primaryKey n named col member
    obtain ⟨_, -, primary, notNull⟩ := mem_markColumns member
    exact ⟨primary.mpr (.inr ⟨primaryKey, named⟩), notNull.mpr (.inr ⟨primaryKey, named⟩)⟩

/-! ## Lowering -/

/-- A column is flagged primary exactly when a primary key is among the constraints written on
it, and each such key names the column alone, which it finds flagged primary and not null. -/
structure ColumnKeys (c : Column) (constraints : List Constraint) : Prop where
  flagged : c.primary = true → ∃ p ∈ constraints, p.isPrimaryKey = true ∧ c.name ∈ p.columnNames
  keys : ∀ p ∈ constraints, p.isPrimaryKey = true →
    (∀ n ∈ p.columnNames, n = c.name) ∧ c.primary = true ∧ c.notNull = true

lemma lowerColumnConstraint_columnKeys {l : LoweredColumn} (h : ColumnKeys l.column l.constraints)
    (cc : ColumnConstraint) :
    ColumnKeys (lowerColumnConstraint l cc).column (lowerColumnConstraint l cc).constraints ∧
      (lowerColumnConstraint l cc).column.name = l.column.name := by
  obtain ⟨flagged, keys⟩ := h
  cases cc with
  | primaryKey name =>
    -- the column is flagged, and the key it gets names it alone
    refine ⟨⟨fun _ => ⟨_, List.mem_append_right _ (List.mem_singleton_self _), rfl,
      List.mem_singleton_self _⟩, fun p member primaryKey => ?_⟩, rfl⟩
    rcases List.mem_append.mp member with old | added
    · exact ⟨(keys p old primaryKey).1, rfl, rfl⟩
    · rw [List.mem_singleton.mp added]
      exact ⟨fun n named => List.mem_singleton.mp named, rfl, rfl⟩
  | notNull =>
    exact ⟨⟨flagged, fun p member primaryKey =>
      ⟨(keys p member primaryKey).1, (keys p member primaryKey).2.1, rfl⟩⟩, rfl⟩
  | null => exact ⟨⟨flagged, keys⟩, rfl⟩
  | unique name =>
    refine ⟨⟨fun primary => ?_, fun p member primaryKey => ?_⟩, rfl⟩
    · obtain ⟨p, member, key⟩ := flagged primary
      exact ⟨p, List.mem_append_left _ member, key⟩
    · rcases List.mem_append.mp member with old | added
      · exact keys p old primaryKey
      · rw [List.mem_singleton.mp added] at primaryKey
        cases primaryKey
  | defaultValue value => exact ⟨⟨flagged, keys⟩, rfl⟩
  | check name detail =>
    refine ⟨⟨fun primary => ?_, fun p member primaryKey => ?_⟩, rfl⟩
    · obtain ⟨p, member, key⟩ := flagged primary
      exact ⟨p, List.mem_append_left _ member, key⟩
    · rcases List.mem_append.mp member with old | added
      · exact keys p old primaryKey
      · rw [List.mem_singleton.mp added] at primaryKey
        cases primaryKey
  | references name target => exact ⟨⟨flagged, keys⟩, rfl⟩
  | ignored => exact ⟨⟨flagged, keys⟩, rfl⟩

/-- A lowered column agrees with the keys written on it. -/
lemma lowerColumn_columnKeys (d : ColumnDef) :
    ColumnKeys (lowerColumn d).column (lowerColumn d).constraints ∧ (lowerColumn d).column.name = d.name := by
  unfold lowerColumn
  refine List.foldlRecOn (motive := fun l : LoweredColumn =>
    ColumnKeys l.column l.constraints ∧ l.column.name = d.name) _ _
    ⟨⟨fun unflagged => absurd unflagged (by simp [Column.new]),
      fun _ absent => absurd absent List.not_mem_nil⟩, rfl⟩
    fun l ⟨keys, named⟩ cc _ => ?_
  obtain ⟨keys', renamed⟩ := lowerColumnConstraint_columnKeys keys cc
  exact ⟨keys', renamed.trans named⟩

/-- One element of a CREATE TABLE as the lowering takes it: a column is added, with the
constraints and foreign keys written on it set aside; a table constraint is set aside. -/
def createTableStep : Table × List Constraint × List PendingForeignKey → TableElement →
    Table × List Constraint × List PendingForeignKey :=
  fun (t, cs, fks) e =>
    match e with
    | .column d =>
      let l := lowerColumn d
      (t.addColumn l.column, cs ++ l.constraints, fks ++ l.foreignKeys)
    | .constraint tc =>
      match lowerTableConstraint t.name tc with
      | .foreignKey _ fk => (t, cs, fks ++ [fk])
      | .constraint _ c => (t, cs ++ [c], fks)
      | _ => (t, cs, fks)

/-- A CREATE TABLE adds its columns, then marks and stores the constraints set aside. -/
lemma lowerCreateTable_eq (name : String) (elements : List TableElement) :
    lowerCreateTable name elements =
      .table ((elements.foldl createTableStep (Table.new name, [], [])).2.1.foldl
          (fun t c => (markColumns t c).addConstraint c) (elements.foldl createTableStep (Table.new name, [], [])).1)
        (elements.foldl createTableStep (Table.new name, [], [])).2.2 := rfl

/-- The constraints a table element declares: those written on a column, or a table constraint
other than a foreign key. -/
def TableElement.declared (table : String) : TableElement → List Constraint
  | .column d => (lowerColumn d).constraints
  | .constraint tc =>
    match lowerTableConstraint table tc with
    | .constraint _ c => [c]
    | _ => []

/-- The constraints a CREATE TABLE declares, in order, its foreign keys apart. -/
def declaredConstraints (table : String) (elements : List TableElement) : List Constraint :=
  elements.flatMap (TableElement.declared table)

lemma createTableStep_constraint (t : Table) (cs : List Constraint) (fks : List PendingForeignKey)
    (tc : TableConstraint) :
    (createTableStep (t, cs, fks) (.constraint tc)).1 = t ∧
      (createTableStep (t, cs, fks) (.constraint tc)).2.1 = cs ++ TableElement.declared t.name (.constraint tc) := by
  unfold createTableStep TableElement.declared
  dsimp only
  split <;> simp_all

/-- The columns of a CREATE TABLE: the table keeps its name and holds no constraint yet, the
constraints set aside are the declared ones, and every column agrees once they are stored. -/
lemma foldl_createTableStep (name : String) (elements : List TableElement) :
    ∀ {t : Table} {cs : List Constraint} {fks : List PendingForeignKey}, t.name = name →
      t.constraints.entries = [] → t.AgreesAwaiting (cs ++ declaredConstraints name elements) →
      let acc := elements.foldl createTableStep (t, cs, fks)
      acc.1.name = name ∧ acc.1.constraints.entries = [] ∧
        acc.2.1 = cs ++ declaredConstraints name elements ∧ acc.1.AgreesAwaiting acc.2.1 := by
  induction elements with
  | nil => exact fun named empty agrees => ⟨named, empty, by simp [declaredConstraints], by
      simpa [declaredConstraints] using agrees⟩
  | cons e rest ih =>
    intro t cs fks named empty agrees
    have declaredCons : declaredConstraints name (e :: rest) =
        TableElement.declared name e ++ declaredConstraints name rest := by
      simp [declaredConstraints]
    rw [declaredCons] at agrees
    rw [List.foldl_cons, declaredCons, ← List.append_assoc]
    cases e with
    | column d =>
      obtain ⟨keys, _⟩ := lowerColumn_columnKeys d
      refine ih named empty ?_
      rw [List.append_assoc]
      refine AgreesAwaiting.addColumn agrees ⟨fun primary => ?_, fun key => ?_⟩
      · obtain ⟨p, member, key⟩ := keys.flagged primary
        exact .inr ⟨p, List.mem_append_right _ (List.mem_append_left _ member), key⟩
      · -- no key is stored yet
        obtain ⟨p, member, -⟩ := key
        simp [NameMap.values, empty] at member
    | constraint tc =>
      obtain ⟨same, added⟩ := createTableStep_constraint t cs fks tc
      rw [named] at added
      have step : createTableStep (t, cs, fks) (.constraint tc) =
          (t, cs ++ TableElement.declared name (.constraint tc),
            (createTableStep (t, cs, fks) (.constraint tc)).2.2) :=
        Prod.ext same (Prod.ext added rfl)
      rw [step]
      exact ih named empty (by rwa [List.append_assoc])

/-- After a constraint is stored under a fresh name, the names of the ones after it, distinct
from it, stay fresh. -/
lemma fresh_after_insert {m : NameMap Constraint} {c : Constraint} {rest : List Constraint}
    (fresh : ∀ k ∈ c :: rest, m.contains k.name = false)
    (distinct : ((c :: rest).map Constraint.name).Nodup) :
    ∀ k ∈ rest, (m.insert c.name c).contains k.name = false := by
  intro k later
  rw [List.map_cons, List.nodup_cons] at distinct
  have other : c.name ≠ k.name := fun same => distinct.1 (same ▸ List.mem_map_of_mem later)
  rw [contains_insert_of_fresh (fresh c List.mem_cons_self), fresh k (List.mem_cons_of_mem c later)]
  simpa using other

/-- Marking and storing the constraints of a CREATE TABLE, under distinct names the table does
not hold, leaves the table agreeing once the rest is stored. -/
lemma foldl_markAdd {pending : List Constraint} (cs : List Constraint) :
    ∀ {t : Table}, t.AgreesAwaiting (cs ++ pending) → (cs.map Constraint.name).Nodup →
      (∀ c ∈ cs, t.constraints.contains c.name = false) →
      (cs.foldl (fun t c => (markColumns t c).addConstraint c) t).AgreesAwaiting pending := by
  induction cs with
  | nil => exact fun agrees _ _ => agrees
  | cons c rest ih =>
    intro t agrees distinct fresh
    have restDistinct : (rest.map Constraint.name).Nodup :=
      (List.nodup_cons.mp (by simpa only [List.map_cons] using distinct)).2
    refine ih (agreesAwaiting_markAdd agrees (fresh c List.mem_cons_self)) restDistinct
      fun k later => ?_
    change ((markColumns t c).constraints.insert c.name c).contains k.name = false
    rw [markColumns_constraints]
    exact fresh_after_insert fresh distinct k later

/-- Storing constraints, unmarked, under distinct names the table does not hold, when the
columns their primary keys name are flagged. -/
lemma foldl_addConstraint {pending : List Constraint} (cs : List Constraint) :
    ∀ {t : Table}, t.AgreesAwaiting (cs ++ pending) → (cs.map Constraint.name).Nodup →
      (∀ c ∈ cs, t.constraints.contains c.name = false) →
      (∀ p ∈ cs, p.isPrimaryKey = true → ∀ n ∈ p.columnNames, ∀ col, (n, col) ∈ t.columns.entries →
        col.primary = true ∧ col.notNull = true) →
      (cs.foldl Table.addConstraint t).AgreesAwaiting pending := by
  induction cs with
  | nil => exact fun agrees _ _ _ => agrees
  | cons c rest ih =>
    intro t agrees distinct fresh flagged
    have restDistinct : (rest.map Constraint.name).Nodup :=
      (List.nodup_cons.mp (by simpa only [List.map_cons] using distinct)).2
    exact ih (AgreesAwaiting.addConstraint agrees (fresh c List.mem_cons_self)
        (flagged c List.mem_cons_self)) restDistinct
      (fresh_after_insert fresh distinct) fun p later => flagged p (List.mem_cons_of_mem c later)

/-- **A CREATE TABLE agrees on its own** when it declares its constraints under distinct names. -/
lemma lowerCreateTable_primaryFlagsAgree (name : String) (elements : List TableElement)
    (distinct : ((declaredConstraints name elements).map Constraint.name).Nodup) :
    ∃ t fks, lowerCreateTable name elements = .table t fks ∧ t.PrimaryFlagsAgree := by
  rw [lowerCreateTable_eq]
  refine ⟨_, _, rfl, ?_⟩
  have bare : (Table.new name).AgreesAwaiting ([] ++ declaredConstraints name elements) :=
    fun _ absent => absurd absent List.not_mem_nil
  obtain ⟨-, empty, declared, agrees⟩ :=
    @foldl_createTableStep name elements (Table.new name) [] [] rfl rfl bare
  rw [← agreesAwaiting_nil]
  rw [declared, List.nil_append] at agrees ⊢
  refine foldl_markAdd _ (by simpa using agrees) distinct fun c _ => ?_
  simp [NameMap.contains, empty]

/-- The constraints of one CREATE TABLE have distinct names. -/
def Statement.NamesDistinct : Statement → Prop
  | .createTable name elements => ((declaredConstraints name elements).map Constraint.name).Nodup
  | _ => True

instance : ∀ s : Statement, Decidable s.NamesDistinct
  | .createTable name elements =>
    inferInstanceAs (Decidable ((declaredConstraints name elements).map Constraint.name).Nodup)
  | .createIndex _ | .createEnum .. | .createExtension _ | .comment .. | .alterTable .. | .other =>
    isTrue trivial

/-- What a fragment brings agrees on its own: a created table agrees, and a column added to an
existing table agrees with the constraints written on it. -/
def Fragment.FlagsAgree : Fragment → Prop
  | .table t _ => t.PrimaryFlagsAgree
  | .column _ c constraints _ => ColumnKeys c constraints
  | _ => True

lemma lower_flagsAgree (s : Statement) (distinct : s.NamesDistinct) : ∀ f ∈ lower s, f.FlagsAgree := by
  intro f member
  cases s with
  | createTable name elements =>
    obtain ⟨t, fks, made, agrees⟩ := lowerCreateTable_primaryFlagsAgree name elements distinct
    simp only [lower, made, List.mem_singleton] at member
    subst member
    exact agrees
  | alterTable table commands =>
    obtain ⟨command, -, made⟩ := List.mem_filterMap.mp member
    cases command with
    | addConstraint tc =>
      cases made
      unfold lowerTableConstraint
      split <;> trivial
    | addColumn d =>
      cases made
      exact (lowerColumn_columnKeys d).1
    | other => cases made
  | comment target text => cases target <;> simp_all [lower, Fragment.FlagsAgree]
  | _ => simp_all [lower, lowerCreateIndex, Fragment.FlagsAgree]

/-! ## Fresh names -/

namespace ConvertState

/-- No table named `table` holds a constraint named `name`. -/
def FreshIn (st : ConvertState) (table name : String) : Prop :=
  ∀ e ∈ st.schema.tables.entries, e.1 = table → e.2.constraints.contains name = false

/-- Absorbing the foreign key into `table` stores its constraint under a fresh name. -/
def FreshForeignKey (st : ConvertState) (table : String) (fk : PendingForeignKey) : Prop :=
  ∀ parts ∈ st.foreignKeyParts? table fk, st.FreshIn table parts.1.name

/-- Foreign keys absorbed one after another into `table`, each under a fresh name. -/
def FreshForeignKeys (table : String) : ConvertState → List PendingForeignKey → Prop
  | _, [] => True
  | st, fk :: fks => st.FreshForeignKey table fk ∧ FreshForeignKeys table (st.absorbForeignKey table fk) fks

end ConvertState

open ConvertState in
/-- Absorbing the fragment at `st` stores every constraint under a name its table does not hold
yet, and adds a column only to a table that has none of that name and no primary key naming
it. -/
def Fragment.Fresh (st : ConvertState) : Fragment → Prop
  | .table t fks => FreshForeignKeys t.name { st with schema := st.schema.addTable t } fks
  | .column owner c constraints fks =>
    (∀ e ∈ st.schema.tables.entries, e.1 = owner →
      e.2.columns.contains c.name = false ∧ ¬ e.2.InPrimaryKey c.name ∧
        ∀ k ∈ constraints, e.2.constraints.contains k.name = false) ∧
    (constraints.map Constraint.name).Nodup ∧
    FreshForeignKeys owner
      (st.withTable owner "column" fun t => constraints.foldl Table.addConstraint (t.addColumn c)) fks
  | .constraint owner c => st.FreshIn owner c.name
  | .foreignKey owner fk => st.FreshForeignKey owner fk
  | _ => True

/-- Every fragment of a run is fresh at the state it meets. -/
def FreshRun : ConvertState → List Fragment → Prop
  | _, [] => True
  | st, f :: fs => f.Fresh st ∧ FreshRun (st.absorb f) fs

instance (st : ConvertState) (table name : String) : Decidable (st.FreshIn table name) :=
  inferInstanceAs (Decidable (∀ e ∈ st.schema.tables.entries, e.1 = table →
    e.2.constraints.contains name = false))

instance (st : ConvertState) (table : String) (fk : PendingForeignKey) :
    Decidable (st.FreshForeignKey table fk) :=
  inferInstanceAs (Decidable (∀ parts ∈ st.foreignKeyParts? table fk, st.FreshIn table parts.1.name))

instance freshForeignKeysDecidable (table : String) :
    ∀ st fks, Decidable (ConvertState.FreshForeignKeys table st fks)
  | _, [] => isTrue trivial
  | st, fk :: fks =>
    have := freshForeignKeysDecidable table (st.absorbForeignKey table fk) fks
    inferInstanceAs (Decidable (st.FreshForeignKey table fk ∧
      ConvertState.FreshForeignKeys table (st.absorbForeignKey table fk) fks))

instance (st : ConvertState) : ∀ f : Fragment, Decidable (f.Fresh st)
  | .table t fks =>
    inferInstanceAs (Decidable (ConvertState.FreshForeignKeys t.name { st with schema := st.schema.addTable t } fks))
  | .column owner c constraints fks =>
    inferInstanceAs (Decidable ((∀ e ∈ st.schema.tables.entries, e.1 = owner →
      e.2.columns.contains c.name = false ∧ ¬ e.2.InPrimaryKey c.name ∧
        ∀ k ∈ constraints, e.2.constraints.contains k.name = false) ∧
      (constraints.map Constraint.name).Nodup ∧
      ConvertState.FreshForeignKeys owner
        (st.withTable owner "column" fun t => constraints.foldl Table.addConstraint (t.addColumn c)) fks))
  | .constraint owner c => inferInstanceAs (Decidable (st.FreshIn owner c.name))
  | .foreignKey owner fk => inferInstanceAs (Decidable (st.FreshForeignKey owner fk))
  | .index .. | .tableComment .. | .columnComment .. | .enumType .. | .extension .. | .warning .. =>
    isTrue trivial

instance freshRunDecidable : ∀ st fs, Decidable (FreshRun st fs)
  | _, [] => isTrue trivial
  | st, f :: fs =>
    have := freshRunDecidable (st.absorb f) fs
    inferInstanceAs (Decidable (f.Fresh st ∧ FreshRun (st.absorb f) fs))

-- a key, then a new column: fresh; the key column added again: not
example : FreshRun {} (([.createTable "t" [.column ⟨"id", "int", [.primaryKey none]⟩],
    .alterTable "t" [.addColumn ⟨"x", "int", []⟩]] : List Statement).flatMap lower) := by decide

example : ¬ FreshRun {} (([.createTable "t" [.column ⟨"id", "int", [.primaryKey none]⟩],
    .alterTable "t" [.addColumn ⟨"id", "int", []⟩]] : List Statement).flatMap lower) := by decide

end Sql

/-! ## Schemas -/

/-- Every table of the schema agrees with its primary keys. -/
def Schema.PrimaryFlagsAgree (s : Schema) : Prop := s.tables.Forall fun _ t => t.PrimaryFlagsAgree

instance (t : Table) : Decidable t.PrimaryFlagsAgree :=
  inferInstanceAs (Decidable (∀ e ∈ t.columns.entries,
    (e.2.primary = true ↔ t.InPrimaryKey e.1) ∧ (t.InPrimaryKey e.1 → e.2.notNull = true)))

instance (s : Schema) : Decidable s.PrimaryFlagsAgree :=
  inferInstanceAs (Decidable (∀ e ∈ s.tables.entries, e.2.PrimaryFlagsAgree))

namespace Sql

open NameMap Table

/-- Adding a column the table lacks and no key names, with the constraints written on it under
fresh, distinct names. -/
lemma primaryFlagsAgree_addColumn {t : Table} {c : Column} {constraints : List Constraint}
    (h : t.PrimaryFlagsAgree) (brings : ColumnKeys c constraints)
    (lacks : t.columns.contains c.name = false) (unnamed : ¬ t.InPrimaryKey c.name)
    (fresh : ∀ k ∈ constraints, t.constraints.contains k.name = false)
    (distinct : (constraints.map Constraint.name).Nodup) :
    (constraints.foldl Table.addConstraint (t.addColumn c)).PrimaryFlagsAgree := by
  rw [← agreesAwaiting_nil] at h ⊢
  have added : (t.addColumn c).AgreesAwaiting (constraints ++ []) :=
    AgreesAwaiting.addColumn (h.mono (List.nil_subset _))
      ⟨fun primary => .inr (by simpa using brings.flagged primary), fun key => absurd key unnamed⟩
  refine foldl_addConstraint constraints added distinct fresh fun p member primaryKey n named col stored => ?_
  -- the only column a key written on `c` names is `c` itself, which that key finds flagged
  obtain ⟨alone, primary, notNull⟩ := brings.keys p member primaryKey
  rw [alone n named] at stored
  change (c.name, col) ∈ (t.columns.insert c.name c).entries at stored
  rw [entries_insert_of_fresh lacks, List.mem_append, List.mem_singleton] at stored
  rcases stored with old | new
  · have held : t.columns.contains c.name = true := by
      simp only [NameMap.contains, List.any_eq_true, beq_iff_eq]
      exact ⟨_, old, rfl⟩
    rw [lacks] at held
    cases held
  · rw [(Prod.mk.inj new).2]
    exact ⟨primary, notNull⟩

namespace ConvertState

variable {st : ConvertState}

lemma withTable_primaryFlagsAgree (h : st.schema.PrimaryFlagsAgree) (table what : String)
    {f : Table → Table}
    (hf : ∀ t, (table, t) ∈ st.schema.tables.entries → t.PrimaryFlagsAgree → (f t).PrimaryFlagsAgree) :
    (st.withTable table what f).schema.PrimaryFlagsAgree := by
  unfold withTable
  split
  · exact Forall.modify_of_mem h hf
  · exact h

lemma foreignKeyParts?_isPrimaryKey {table : String} {fk : PendingForeignKey} {c : Constraint}
    {r : Relationship} (h : st.foreignKeyParts? table fk = some (c, r)) : c.isPrimaryKey = false := by
  unfold foreignKeyParts? at h
  split at h
  · cases h
    rfl
  · cases h

lemma absorbForeignKey_primaryFlagsAgree (h : st.schema.PrimaryFlagsAgree) (table : String)
    (fk : PendingForeignKey) (fresh : st.FreshForeignKey table fk) :
    (st.absorbForeignKey table fk).schema.PrimaryFlagsAgree := by
  rcases schema_absorbForeignKey st table fk with same | ⟨c, r, parts, -, stored⟩
  · rw [same]
    exact h
  · rw [stored]
    -- the relationship leaves the tables as they are, and the constraint is no primary key
    refine Forall.modify_of_mem h fun t member agrees => ?_
    rw [← agreesAwaiting_nil] at agrees ⊢
    refine (agrees.mono (List.nil_subset [c])).addConstraint (fresh (c, r) parts _ member rfl) ?_
    intro primaryKey
    rw [foreignKeyParts?_isPrimaryKey parts] at primaryKey
    cases primaryKey

lemma foldl_absorbForeignKey_primaryFlagsAgree (table : String) (fks : List PendingForeignKey) :
    ∀ {st : ConvertState}, st.schema.PrimaryFlagsAgree → FreshForeignKeys table st fks →
      (fks.foldl (fun st fk => st.absorbForeignKey table fk) st).schema.PrimaryFlagsAgree := by
  induction fks with
  | nil => exact fun h _ => h
  | cons fk rest ih =>
    exact fun h ⟨fresh, later⟩ => ih (absorbForeignKey_primaryFlagsAgree h table fk fresh) later

/-- **One fragment keeps the agreement**: absorbing a fragment that agrees on its own and is
fresh at the state it meets. -/
lemma absorb_primaryFlagsAgree (h : st.schema.PrimaryFlagsAgree) {f : Fragment}
    (brings : f.FlagsAgree) (fresh : f.Fresh st) : (st.absorb f).schema.PrimaryFlagsAgree := by
  cases f with
  | table t fks =>
    exact foldl_absorbForeignKey_primaryFlagsAgree t.name fks (Forall.insert h brings) fresh
  | column table c constraints fks =>
    obtain ⟨newColumn, distinct, freshKeys⟩ := fresh
    rw [absorb]
    split
    · refine foldl_absorbForeignKey_primaryFlagsAgree table fks ?_ freshKeys
      refine withTable_primaryFlagsAgree h table _ fun t member agrees => ?_
      obtain ⟨lacks, unnamed, freshIn⟩ := newColumn _ member rfl
      exact primaryFlagsAgree_addColumn agrees brings lacks unnamed freshIn distinct
    · exact h
  | constraint table c =>
    refine withTable_primaryFlagsAgree h table _ fun t member agrees => ?_
    rw [← agreesAwaiting_nil] at agrees ⊢
    exact agreesAwaiting_markAdd (agrees.mono (List.nil_subset [c])) (fresh _ member rfl)
  | foreignKey table fk => exact absorbForeignKey_primaryFlagsAgree h table fk fresh
  | index table i => exact withTable_primaryFlagsAgree h table _ fun _ _ agrees => agrees
  | tableComment table comment => exact withTable_primaryFlagsAgree h table _ fun _ _ agrees => agrees
  | columnComment table column comment =>
    rw [absorb]
    split
    · exact Forall.modify h fun _ agrees => agrees.modifyColumn fun _ => ⟨rfl, rfl⟩
    · exact h
  | enumType e => exact h
  | extension e => exact h
  | warning p => exact h

end ConvertState

/-- A fresh run of fragments that agree on their own keeps the agreement. -/
lemma foldl_absorb_primaryFlagsAgree (fs : List Fragment) :
    ∀ {st : ConvertState}, st.schema.PrimaryFlagsAgree → (∀ f ∈ fs, f.FlagsAgree) → FreshRun st fs →
      (fs.foldl ConvertState.absorb st).schema.PrimaryFlagsAgree := by
  induction fs with
  | nil => exact fun h _ _ => h
  | cons f rest ih =>
    intro st h brings ⟨fresh, later⟩
    exact ih (ConvertState.absorb_primaryFlagsAgree h (brings f List.mem_cons_self) fresh)
      (fun f' member => brings f' (List.mem_cons_of_mem f member)) later

/-- **Reading DDL that redefines nothing keeps primary-key flags and keys in agreement.** For every
text and window size: if every CREATE TABLE read declares its constraints under distinct names,
and the reading stores no constraint under a name its table holds and adds no column its table
has or a primary key names, then in every table a column is flagged primary exactly when a
primary key of the table names it, and is then flagged not null. -/
theorem parsePostgres_primary_flags (input : String) (chunkSize : Nat)
    (distinct : ∀ s, .ok s ∈ statementsRead input chunkSize → s.NamesDistinct)
    (fresh : FreshRun {} ((statementsRead input chunkSize).flatMap fragmentsOf)) :
    ∀ t ∈ (parsePostgres input chunkSize).value.tables.values, ∀ c ∈ t.columns.values,
      (c.primary = true ↔ t.InPrimaryKey c.name) ∧ (t.InPrimaryKey c.name → c.notNull = true) := by
  have agrees : (parsePostgres input chunkSize).value.PrimaryFlagsAgree := by
    rw [parsePostgres_value]
    refine foldl_absorb_primaryFlagsAgree _ (fun _ absent => absurd absent List.not_mem_nil) ?_ fresh
    intro f member
    obtain ⟨item, read, brought⟩ := List.mem_flatMap.mp member
    cases item with
    | ok s => exact lower_flagsAgree s (distinct s read) f brought
    | error p =>
      rw [List.mem_singleton.mp brought]
      trivial
  -- entries are stored under the names of their objects
  intro t table c column
  obtain ⟨k, stored⟩ := mem_values.mp table
  obtain ⟨n, held⟩ := mem_values.mp column
  have named : n = c.name := ((parsePostgres_keyed input chunkSize).tables _ stored).2.columns _ held
  subst named
  exact agrees _ stored _ held

/-- A reading with a key and a foreign key to it meets both conditions. -/
theorem parsePostgres_primary_flags_keyed :
    let text := "CREATE TABLE a (id int PRIMARY KEY);\nCREATE TABLE b (x int REFERENCES a(id));"
    (∀ s, .ok s ∈ statementsRead text 1 → s.NamesDistinct) ∧
      FreshRun {} ((statementsRead text 1).flatMap fragmentsOf) ∧
      ∀ t ∈ (parsePostgres text 1).value.tables.values, ∀ c ∈ t.columns.values,
        (c.primary = true ↔ t.InPrimaryKey c.name) ∧ (t.InPrimaryKey c.name → c.notNull = true) := by
  intro text
  have read : statementsRead text 1 =
      [.ok (.createTable "a" [.column ⟨"id", "int", [.primaryKey none]⟩]),
        .ok (.createTable "b"
          [.column ⟨"x", "int", [.references none ⟨"a", ["id"], .noAction, .noAction⟩]⟩])] := by
    decide +kernel
  have distinct : ∀ s, .ok s ∈ statementsRead text 1 → s.NamesDistinct := by
    rw [read]
    intro s member
    simp only [List.mem_cons, Except.ok.injEq, List.not_mem_nil, or_false] at member
    rcases member with rfl | rfl <;> decide
  have fresh : FreshRun {} ((statementsRead text 1).flatMap fragmentsOf) := by
    rw [read]
    decide
  exact ⟨distinct, fresh, parsePostgres_primary_flags text 1 distinct fresh⟩

/-- A key column added again by ALTER TABLE comes back unflagged while its key stays. -/
theorem parsePostgres_readded_key_column_unflagged :
    ¬ (parsePostgres "CREATE TABLE t (id int PRIMARY KEY);\nALTER TABLE t ADD COLUMN id int;"
      500).value.PrimaryFlagsAgree := by
  decide +kernel

end Sql

end Schemata
