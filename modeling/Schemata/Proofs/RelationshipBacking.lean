import Mathlib
import Schemata.Proofs.PrimaryKeyFlags

/-!
# Relationships backed by foreign keys

A relationship of a schema stands for a foreign key: the table of its referencing side holds a
FOREIGN KEY constraint whose first column, target table, first target column and actions are
the relationship's (`Constraint.Backs`). Every front-end adds a relationship only in the step
that stores such a constraint, so what can leave a relationship unbacked is a later step that
drops the constraint: one that creates its table again, or stores another constraint under its
name.

`Schema.KeepsForeignKeys s s'` says that a step from `s` to `s'` drops no foreign key, and
`Schema.AddsBacked s s'` that every relationship it adds is backed; together they keep every
relationship backed (`RelationshipsBacked.step`). The PostgreSQL reading keeps them when it
replaces nothing it stored (`Fragment.Additive`), and a schema.rb reading when no call drops a
foreign key (`Rails.KeepsForeignKeysRun`).
-/

namespace Schemata

namespace NameMap

variable {α : Type} {m : NameMap α} {k k' : String} {v : α}

lemma mem_insertEntries_self : ∀ {es : List (String × α)}, (k, v) ∈ insertEntries k v es
  | [] => List.mem_singleton_self _
  | (k', v') :: rest => by
    unfold insertEntries
    split
    · next same =>
      rw [beq_iff_eq] at same
      subst same
      exact List.mem_cons_self
    · exact List.mem_cons_of_mem _ mem_insertEntries_self

lemma mem_insertEntries_of_ne {e : String × α} (other : e.1 ≠ k) :
    ∀ {es : List (String × α)}, e ∈ es → e ∈ insertEntries k v es
  | [], absent => absurd absent List.not_mem_nil
  | (k', v') :: rest, member => by
    unfold insertEntries
    split
    · next same =>
      rw [beq_iff_eq] at same
      rcases List.mem_cons.mp member with rfl | later
      · exact absurd same other
      · exact List.mem_cons_of_mem _ later
    · rcases List.mem_cons.mp member with rfl | later
      · exact List.mem_cons_self
      · exact List.mem_cons_of_mem _ (mem_insertEntries_of_ne other later)

lemma mem_insert_self : (k, v) ∈ (m.insert k v).entries := mem_insertEntries_self

lemma mem_insert_of_ne {e : String × α} (member : e ∈ m.entries) (other : e.1 ≠ k) :
    e ∈ (m.insert k v).entries :=
  mem_insertEntries_of_ne other member

lemma mem_modify_self {f : α → α} (member : (k, v) ∈ m.entries) :
    (k, f v) ∈ (m.modify k f).entries :=
  List.mem_map.mpr ⟨(k, v), member, by simp⟩

lemma mem_modify_of_ne {f : α → α} (member : (k', v) ∈ m.entries) (other : k' ≠ k) :
    (k', v) ∈ (m.modify k f).entries :=
  List.mem_map.mpr ⟨(k', v), member, by simp [other]⟩

lemma contains_iff : m.contains k = true ↔ ∃ v, (k, v) ∈ m.entries := by
  simp [contains]

lemma contains_modify {f : α → α} : (m.modify k f).contains k' = m.contains k' := by
  simp only [contains, modify, List.any_map]
  congr 1
  funext e
  by_cases same : e.1 = k <;> simp [same]

end NameMap

open NameMap

/-! ## Backing -/

namespace Constraint

/-- The constraint backs the relationship: a foreign key whose first column, target table, first
target column and actions are those of the relationship. -/
def Backs (c : Constraint) (r : Relationship) : Prop :=
  match c with
  | .foreignKey _ (column :: _) target (targetColumn :: _) onUpdate onDelete =>
    column = r.foreignColumn ∧ target = r.primaryTable ∧ targetColumn = r.primaryColumn ∧
      onUpdate = r.onUpdate ∧ onDelete = r.onDelete
  | _ => False

instance (c : Constraint) (r : Relationship) : Decidable (c.Backs r) :=
  match c with
  | .foreignKey _ (column :: _) target (targetColumn :: _) onUpdate onDelete =>
    inferInstanceAs (Decidable (column = r.foreignColumn ∧ target = r.primaryTable ∧
      targetColumn = r.primaryColumn ∧ onUpdate = r.onUpdate ∧ onDelete = r.onDelete))
  | .foreignKey _ [] _ _ _ _ | .foreignKey _ (_ :: _) _ [] _ _ => isFalse id
  | .primaryKey .. | .unique .. | .check .. => isFalse id

variable {c : Constraint} {r : Relationship}

lemma backs_foreignKey {name column target targetColumn : String} {columns targetColumns : List String}
    {onUpdate onDelete : Action} :
    (foreignKey name (column :: columns) target (targetColumn :: targetColumns) onUpdate onDelete).Backs r ↔
      column = r.foreignColumn ∧ target = r.primaryTable ∧ targetColumn = r.primaryColumn ∧
        onUpdate = r.onUpdate ∧ onDelete = r.onDelete :=
  Iff.rfl

lemma Backs.isForeignKey (h : c.Backs r) : c.isForeignKey = true := by
  unfold Backs at h
  split at h
  · rfl
  · exact h.elim

end Constraint

namespace Table

/-- Every foreign key of `t` is a constraint of `t'`. -/
def KeepsForeignKeys (t t' : Table) : Prop :=
  ∀ c ∈ t.constraints.values, c.isForeignKey = true → c ∈ t'.constraints.values

variable {t t' t'' : Table}

lemma keepsForeignKeys_of_constraints (same : t'.constraints = t.constraints) : t.KeepsForeignKeys t' :=
  fun _ held _ => same ▸ held

lemma KeepsForeignKeys.trans (h : t.KeepsForeignKeys t') (h' : t'.KeepsForeignKeys t'') :
    t.KeepsForeignKeys t'' :=
  fun c held fk => h' c (h c held fk) fk

/-- A constraint stored under a name that holds no foreign key drops none. -/
lemma keepsForeignKeys_addConstraint {c : Constraint}
    (spare : ∀ e ∈ t.constraints.entries, e.1 = c.name → e.2.isForeignKey = false) :
    t.KeepsForeignKeys (t.addConstraint c) := by
  intro c' held fk
  obtain ⟨k, stored⟩ := mem_values.mp held
  refine mem_values.mpr ⟨k, mem_insert_of_ne stored fun same => ?_⟩
  rw [spare _ stored same] at fk
  cases fk

lemma keepsForeignKeys_addConstraint_of_fresh {c : Constraint}
    (fresh : t.constraints.contains c.name = false) : t.KeepsForeignKeys (t.addConstraint c) :=
  keepsForeignKeys_addConstraint fun e stored same => by
    rw [← same, contains_iff.mpr ⟨e.2, stored⟩] at fresh
    cases fresh

/-- Constraints under fresh, distinct names, one after another. -/
lemma keepsForeignKeys_foldl_addConstraint :
    ∀ {t : Table} {cs : List Constraint}, (∀ c ∈ cs, t.constraints.contains c.name = false) →
      (cs.map Constraint.name).Nodup → t.KeepsForeignKeys (cs.foldl addConstraint t)
  | _, [], _, _ => fun _ held _ => held
  | t, c :: rest, fresh, distinct => by
    rw [List.map_cons, List.nodup_cons] at distinct
    have later : ∀ c' ∈ rest, (t.addConstraint c).constraints.contains c'.name = false := by
      intro c' member
      rw [addConstraint, contains_insert_of_fresh (fresh c List.mem_cons_self),
        fresh c' (List.mem_cons_of_mem _ member), Bool.false_or, beq_eq_false_iff_ne]
      exact fun same => distinct.1 (same ▸ List.mem_map_of_mem member)
    exact (keepsForeignKeys_addConstraint_of_fresh (fresh c List.mem_cons_self)).trans
      (keepsForeignKeys_foldl_addConstraint later distinct.2)

end Table

namespace Schema

/-- The table stored under the name of the relationship's referencing table holds a foreign key
that backs it. -/
def Backed (s : Schema) (r : Relationship) : Prop :=
  ∃ e ∈ s.tables.entries, e.1 = r.foreignTable ∧ ∃ c ∈ e.2.constraints.values, c.Backs r

/-- Every relationship of the schema is backed. -/
def RelationshipsBacked (s : Schema) : Prop := s.relationships.Forall fun _ r => s.Backed r

/-- Every foreign key that `s` holds, `s'` holds too, in a table stored under the same name. -/
def KeepsForeignKeys (s s' : Schema) : Prop :=
  ∀ e ∈ s.tables.entries, ∀ c ∈ e.2.constraints.values, c.isForeignKey = true →
    ∃ e' ∈ s'.tables.entries, e'.1 = e.1 ∧ c ∈ e'.2.constraints.values

/-- Every relationship of `s'` is one of `s` or is backed in `s'`. -/
def AddsBacked (s s' : Schema) : Prop :=
  ∀ e ∈ s'.relationships.entries, e ∈ s.relationships.entries ∨ s'.Backed e.2

/-- Every relationship has a table named after its referencing table that holds a foreign key
backing it. -/
def BacksRelationships (s : Schema) : Prop :=
  ∀ r ∈ s.relationships.values, ∃ t ∈ s.tables.values, t.name = r.foreignTable ∧
    ∃ c ∈ t.constraints.values, c.Backs r

instance (s : Schema) (r : Relationship) : Decidable (s.Backed r) :=
  inferInstanceAs (Decidable (∃ e ∈ s.tables.entries, e.1 = r.foreignTable ∧
    ∃ c ∈ e.2.constraints.values, c.Backs r))

instance (s : Schema) : Decidable s.BacksRelationships :=
  inferInstanceAs (Decidable (∀ r ∈ s.relationships.values, ∃ t ∈ s.tables.values,
    t.name = r.foreignTable ∧ ∃ c ∈ t.constraints.values, c.Backs r))

instance (s : Schema) : Decidable s.RelationshipsBacked :=
  inferInstanceAs (Decidable (∀ e ∈ s.relationships.entries, s.Backed e.2))

instance (s s' : Schema) : Decidable (s.KeepsForeignKeys s') :=
  inferInstanceAs (Decidable (∀ e ∈ s.tables.entries, ∀ c ∈ e.2.constraints.values,
    c.isForeignKey = true → ∃ e' ∈ s'.tables.entries, e'.1 = e.1 ∧ c ∈ e'.2.constraints.values))

variable {s s' : Schema} {r : Relationship}

lemma Backed.of_keeps (h : s.Backed r) (keeps : s.KeepsForeignKeys s') : s'.Backed r := by
  obtain ⟨e, stored, named, c, held, backs⟩ := h
  obtain ⟨e', stored', same, held'⟩ := keeps e stored c held backs.isForeignKey
  exact ⟨e', stored', same.trans named, c, held', backs⟩

/-- Changing the tables of one name, each keeping its foreign keys. -/
lemma keepsForeignKeys_modifyTable {n : String} {f : Table → Table}
    (hf : ∀ t, (n, t) ∈ s.tables.entries → t.KeepsForeignKeys (f t)) :
    s.KeepsForeignKeys (s.modifyTable n f) := by
  rintro ⟨k, t⟩ stored c held fk
  by_cases same : k = n
  · subst same
    exact ⟨(k, f t), mem_modify_self stored, rfl, hf t stored c held fk⟩
  · exact ⟨(k, t), mem_modify_of_ne stored same, rfl, held⟩

/-- A table of a new name is appended. -/
lemma keepsForeignKeys_addTable {t : Table} (fresh : s.tables.contains t.name = false) :
    s.KeepsForeignKeys (s.addTable t) := by
  intro e stored _ held _
  refine ⟨e, ?_, rfl, held⟩
  show e ∈ (s.tables.insert t.name t).entries
  rw [entries_insert_of_fresh fresh]
  exact List.mem_append_left _ stored

lemma addsBacked_of_relationships (same : s'.relationships = s.relationships) : s.AddsBacked s' :=
  fun _ member => .inl (same ▸ member)

/-- Storing a foreign key in the existing table of a relationship it backs, together with the
relationship, adds the relationship backed. -/
lemma addsBacked_storeForeignKey {c : Constraint} (backs : c.Backs r)
    (present : s.tables.contains r.foreignTable = true) :
    s.AddsBacked ((s.modifyTable r.foreignTable (·.addConstraint c)).addRelationship r) := by
  intro e member
  rcases mem_insertEntries member with rfl | old
  · obtain ⟨t, stored⟩ := contains_iff.mp present
    exact .inr ⟨(r.foreignTable, t.addConstraint c), mem_modify_self stored, rfl, c,
      mem_values.mpr ⟨c.name, mem_insert_self⟩, backs⟩
  · exact .inl old

/-- **One step keeps every relationship backed** when it drops no foreign key and backs every
relationship it adds. -/
lemma RelationshipsBacked.step (h : s.RelationshipsBacked) (keeps : s.KeepsForeignKeys s')
    (adds : s.AddsBacked s') : s'.RelationshipsBacked := by
  intro e member
  rcases adds e member with old | backed
  · exact (h e old).of_keeps keeps
  · exact backed

lemma relationshipsBacked_empty : ({} : Schema).RelationshipsBacked := forall_empty

/-- In a schema that stores its objects under their names, the stored names are the names. -/
lemma RelationshipsBacked.backsRelationships (h : s.RelationshipsBacked) (keyed : s.Keyed) :
    s.BacksRelationships := by
  intro r member
  obtain ⟨k, stored⟩ := mem_values.mp member
  obtain ⟨e, table, named, c, held, backs⟩ := h _ stored
  refine ⟨e.2, mem_values.mpr ⟨e.1, table⟩, ?_, c, held, backs⟩
  rw [← named]
  exact ((keyed.tables e table).1).symm

end Schema

/-! ## PostgreSQL -/

namespace Sql

open Schema

namespace ConvertState

variable {st : ConvertState}

lemma foreignKeyParts?_backs {table : String} {fk : PendingForeignKey} {c : Constraint}
    {r : Relationship} (h : st.foreignKeyParts? table fk = some (c, r)) :
    c.Backs r ∧ r.foreignTable = table := by
  unfold foreignKeyParts? at h
  split at h
  · next column targetColumn first firstTarget =>
    cases h
    obtain ⟨columns, split⟩ := List.head?_eq_some_iff.mp first
    obtain ⟨targetColumns, splitTarget⟩ := List.head?_eq_some_iff.mp firstTarget
    rw [split, splitTarget]
    exact ⟨Constraint.backs_foreignKey.mpr ⟨rfl, rfl, rfl, rfl, rfl⟩, rfl⟩
  · cases h

lemma absorbForeignKey_relationshipsBacked (h : st.schema.RelationshipsBacked) (table : String)
    (fk : PendingForeignKey) (fresh : st.FreshForeignKey table fk) :
    (st.absorbForeignKey table fk).schema.RelationshipsBacked := by
  rcases schema_absorbForeignKey st table fk with same | ⟨c, r, parts, present, stored⟩
  · rw [same]
    exact h
  · obtain ⟨backs, rfl⟩ := foreignKeyParts?_backs parts
    rw [stored]
    -- the constraint's name is fresh in its table, so no foreign key is dropped
    refine h.step (keepsForeignKeys_modifyTable fun t member => ?_) (addsBacked_storeForeignKey backs present)
    exact Table.keepsForeignKeys_addConstraint_of_fresh (fresh (c, r) parts _ member rfl)

lemma foldl_absorbForeignKey_relationshipsBacked (table : String) (fks : List PendingForeignKey) :
    ∀ {st : ConvertState}, st.schema.RelationshipsBacked → FreshForeignKeys table st fks →
      (fks.foldl (fun st fk => st.absorbForeignKey table fk) st).schema.RelationshipsBacked := by
  induction fks with
  | nil => exact fun h _ => h
  | cons fk rest ih =>
    exact fun h ⟨fresh, later⟩ => ih (absorbForeignKey_relationshipsBacked h table fk fresh) later

lemma withTable_relationshipsBacked (h : st.schema.RelationshipsBacked) (table what : String)
    {f : Table → Table} (hf : ∀ t, (table, t) ∈ st.schema.tables.entries → t.KeepsForeignKeys (f t)) :
    (st.withTable table what f).schema.RelationshipsBacked := by
  unfold withTable
  split
  · exact h.step (keepsForeignKeys_modifyTable hf) (addsBacked_of_relationships rfl)
  · exact h

end ConvertState

open ConvertState in
/-- Absorbing the fragment at `st` replaces nothing stored: it creates no table the schema holds,
and stores every constraint under a name its table does not hold yet. -/
def Fragment.Additive (st : ConvertState) : Fragment → Prop
  | .table t fks =>
    st.schema.tables.contains t.name = false ∧
      FreshForeignKeys t.name { st with schema := st.schema.addTable t } fks
  | .column owner c constraints fks =>
    (∀ k ∈ constraints, st.FreshIn owner k.name) ∧ (constraints.map Constraint.name).Nodup ∧
    FreshForeignKeys owner
      (st.withTable owner "column" fun t => constraints.foldl Table.addConstraint (t.addColumn c)) fks
  | .constraint owner c => st.FreshIn owner c.name
  | .foreignKey owner fk => st.FreshForeignKey owner fk
  | _ => True

/-- Every fragment of a run is additive at the state it meets. -/
def AdditiveRun : ConvertState → List Fragment → Prop
  | _, [] => True
  | st, f :: fs => f.Additive st ∧ AdditiveRun (st.absorb f) fs

instance (st : ConvertState) : ∀ f : Fragment, Decidable (f.Additive st)
  | .table t fks =>
    inferInstanceAs (Decidable (st.schema.tables.contains t.name = false ∧
      ConvertState.FreshForeignKeys t.name { st with schema := st.schema.addTable t } fks))
  | .column owner c constraints fks =>
    inferInstanceAs (Decidable ((∀ k ∈ constraints, st.FreshIn owner k.name) ∧
      (constraints.map Constraint.name).Nodup ∧
      ConvertState.FreshForeignKeys owner
        (st.withTable owner "column" fun t => constraints.foldl Table.addConstraint (t.addColumn c)) fks))
  | .constraint owner c => inferInstanceAs (Decidable (st.FreshIn owner c.name))
  | .foreignKey owner fk => inferInstanceAs (Decidable (st.FreshForeignKey owner fk))
  | .index .. | .tableComment .. | .columnComment .. | .enumType .. | .extension .. | .warning .. =>
    isTrue trivial

instance additiveRunDecidable : ∀ st fs, Decidable (AdditiveRun st fs)
  | _, [] => isTrue trivial
  | st, f :: fs =>
    have := additiveRunDecidable (st.absorb f) fs
    inferInstanceAs (Decidable (f.Additive st ∧ AdditiveRun (st.absorb f) fs))

namespace ConvertState

variable {st : ConvertState}

/-- **One fragment keeps every relationship backed** when it replaces nothing stored. -/
lemma absorb_relationshipsBacked (h : st.schema.RelationshipsBacked) {f : Fragment}
    (additive : f.Additive st) : (st.absorb f).schema.RelationshipsBacked := by
  cases f with
  | table t fks =>
    obtain ⟨fresh, freshKeys⟩ := additive
    refine foldl_absorbForeignKey_relationshipsBacked t.name fks ?_ freshKeys
    exact h.step (keepsForeignKeys_addTable fresh) (addsBacked_of_relationships rfl)
  | column table c constraints fks =>
    obtain ⟨fresh, distinct, freshKeys⟩ := additive
    rw [absorb]
    split
    · refine foldl_absorbForeignKey_relationshipsBacked table fks ?_ freshKeys
      refine withTable_relationshipsBacked h table _ fun t member => ?_
      -- the column leaves the constraints alone; its own come under fresh, distinct names
      have lacks : ∀ k ∈ constraints, (t.addColumn c).constraints.contains k.name = false :=
        fun k held => fresh k held _ member rfl
      exact (Table.keepsForeignKeys_of_constraints rfl).trans
        (Table.keepsForeignKeys_foldl_addConstraint lacks distinct)
    · exact h
  | constraint table c =>
    refine withTable_relationshipsBacked h table _ fun t member => ?_
    refine (Table.keepsForeignKeys_of_constraints (markColumns_constraints c)).trans ?_
    refine Table.keepsForeignKeys_addConstraint_of_fresh ?_
    rw [markColumns_constraints]
    exact additive _ member rfl
  | foreignKey table fk => exact absorbForeignKey_relationshipsBacked h table fk additive
  | index table i =>
    exact withTable_relationshipsBacked h table _ fun _ _ => Table.keepsForeignKeys_of_constraints rfl
  | tableComment table comment =>
    exact withTable_relationshipsBacked h table _ fun _ _ => Table.keepsForeignKeys_of_constraints rfl
  | columnComment table column comment =>
    rw [absorb]
    split
    · exact h.step (keepsForeignKeys_modifyTable fun _ _ => Table.keepsForeignKeys_of_constraints rfl)
        (addsBacked_of_relationships rfl)
    · exact h
  | enumType e => exact h
  | extension e => exact h
  | warning p => exact h

end ConvertState

lemma foldl_absorb_relationshipsBacked (fs : List Fragment) :
    ∀ {st : ConvertState}, st.schema.RelationshipsBacked → AdditiveRun st fs →
      (fs.foldl ConvertState.absorb st).schema.RelationshipsBacked := by
  induction fs with
  | nil => exact fun h _ => h
  | cons f rest ih =>
    exact fun h ⟨additive, later⟩ => ih (ConvertState.absorb_relationshipsBacked h additive) later

lemma parsePostgres_relationshipsBacked (input : String) (chunkSize : Nat)
    (additive : AdditiveRun {} ((statementsRead input chunkSize).flatMap fragmentsOf)) :
    (parsePostgres input chunkSize).value.RelationshipsBacked := by
  rw [parsePostgres_value]
  exact foldl_absorb_relationshipsBacked _ relationshipsBacked_empty additive

-- a table and one that references it: additive
example : AdditiveRun {} (([.createTable "a" [.column ⟨"id", "int", [.primaryKey none]⟩],
    .createTable "b" [.column ⟨"x", "int", [.references none ⟨"a", ["id"], .noAction, .noAction⟩]⟩]] :
      List Statement).flatMap lower) := by
  decide

/-- A referencing table created again drops its foreign key and leaves the relationship: the
second `CREATE TABLE b` replaces the table with its constraint `a_id_to_b_x`, while the
relationship of that name stays. -/
theorem parsePostgres_recreated_table_unbacks :
    ¬ (parsePostgres ("CREATE TABLE a (id int PRIMARY KEY);\n" ++
      "CREATE TABLE b (x int REFERENCES a(id));\nCREATE TABLE b (x int);") 500).value.BacksRelationships := by
  decide +kernel

end Sql

/-! ## schema.rb -/

namespace Rails

open Schema

namespace ForeignKeyLink

/-- The constraint a link stores. -/
def constraint (fk : ForeignKeyLink) : Constraint :=
  .foreignKey (fk.name.getD ("fk_" ++ fk.table ++ "_" ++ fk.column)) [fk.column] fk.targetTable
    [fk.targetColumn] fk.onUpdate fk.onDelete

/-- The relationship a link adds. -/
def relationship (fk : ForeignKeyLink) : Relationship :=
  { Relationship.new fk.targetTable fk.targetColumn fk.table fk.column with
    onUpdate := fk.onUpdate, onDelete := fk.onDelete }

lemma constraint_backs (fk : ForeignKeyLink) : fk.constraint.Backs fk.relationship :=
  Constraint.backs_foreignKey.mpr ⟨rfl, rfl, rfl, rfl, rfl⟩

end ForeignKeyLink

/-- The link a `create_table` block makes for a reference `(column, target)`. -/
def tableLink (table : String) (reference : String × String) : ForeignKeyLink :=
  { table, column := reference.1, targetTable := reference.2, targetColumn := "id", name := none
    onUpdate := .noAction, onDelete := .noAction }

lemma tableLink_column {table : String} {p q : String × String}
    (same : (tableLink table p).constraint.name = (tableLink table q).constraint.name) : p.1 = q.1 :=
  (String.append_right_inj _).mp same

/-- A reference of a `create_table` block: the column `{reference}_id`, and the table named by the
plural of the reference. -/
def ReferenceKey (p : String × String) : Prop :=
  ∃ reference, p = (reference ++ "_id", Inflect.pluralize reference)

/-- A column names one reference, so a block's references agree on the target of a column. -/
lemma ReferenceKey.unique {p q : String × String} (hp : ReferenceKey p) (hq : ReferenceKey q)
    (same : p.1 = q.1) : p = q := by
  obtain ⟨reference, rfl⟩ := hp
  obtain ⟨reference', rfl⟩ := hq
  rw [(String.append_left_inj "_id").mp same]

/-- The schema holds the link's constraint under its name, in a table stored under the link's
table name. -/
def StoresLink (s : Schema) (fk : ForeignKeyLink) : Prop :=
  ∃ e ∈ s.tables.entries, e.1 = fk.table ∧ (fk.constraint.name, fk.constraint) ∈ e.2.constraints.entries

lemma StoresLink.backed {s : Schema} {fk : ForeignKeyLink} (h : StoresLink s fk) :
    s.Backed fk.relationship := by
  obtain ⟨e, stored, named, held⟩ := h
  exact ⟨e, stored, named, fk.constraint, mem_values.mpr ⟨_, held⟩, fk.constraint_backs⟩

lemma references_key (t : Table) (c : Call) : ∀ p ∈ (references t c).2, ReferenceKey p := by
  unfold references
  split
  · exact fun _ absent => absurd absent (Option.not_mem_none _)
  · next reference _ =>
    dsimp only
    split
    · exact fun p member => ⟨reference, (Option.mem_some_iff.mp member).symm⟩
    · exact fun _ absent => absurd absent (Option.not_mem_none _)

/-- The table `create_table` starts from: its name and comment, and the primary key its options
give. -/
def initialTable (name : String) (c : Call) : Table :=
  let t : Table := { name, comment := c.optionText? "comment" }
  match c.option? "primary_key" with
  | some (.array items) =>
    let columns := items.filterMap Value.asText?
    t.addConstraint (.primaryKey ("PRIMARY_" ++ "_".intercalate columns) columns)
  | pk =>
    if c.optionIs "id" false then t
    else
      let idName := (pk.bind Value.asText?).getD "id"
      let idType := (((c.option? "id").bind Value.asText?).map TypeName.normalizeSchemaRb).getD "bigserial"
      let id := { (Column.new idName idType).markPrimary with
        default := (c.option? "default").bind defaultValue? }
      (t.addColumn id).addConstraint (.primaryKey ("PRIMARY_" ++ idName) [idName])

/-- The calls of a `create_table` block, one after another. -/
def tableCalls (calls : List Call) (acc : Builder × Table × List (String × String)) :
    Builder × Table × List (String × String) :=
  calls.foldl (fun acc inner => Builder.tableCall acc.1 acc.2.1 acc.2.2 inner) acc

namespace Builder

variable {b b' : Builder}

/-- `create_table` of a named table: the block's calls build the table, which is stored, and
then the block's references are linked. -/
lemma createTable_eq (b : Builder) (c : Call) {name : String} (named : c.strings.head? = some name) :
    b.createTable c =
      let acc := tableCalls c.block (b, initialTable name c, [])
      acc.2.2.foldl (fun b p => b.link (tableLink name p))
        { acc.1 with schema := acc.1.schema.addTable (markPrimaryColumns acc.2.1) } := by
  unfold createTable
  rw [named]
  rfl

/-- A call of a `create_table` block leaves the schema as it is, builds the same table and
references from any builder, and adds only references to those found. -/
lemma tableCall_frame (b b' : Builder) (t : Table) (refs : List (String × String)) (inner : Call) :
    (tableCall b t refs inner).1.schema = b.schema ∧
      (tableCall b t refs inner).2 = (tableCall b' t refs inner).2 ∧
      ∀ p ∈ (tableCall b t refs inner).2.2, p ∈ refs ∨ ReferenceKey p := by
  have found : ∀ p ∈ refs, p ∈ refs ∨ ReferenceKey p := fun _ member => .inl member
  have referenced : ∀ p ∈ refs ++ (references t inner).2.toList, p ∈ refs ∨ ReferenceKey p := by
    intro p member
    rcases List.mem_append.mp member with old | new
    · exact .inl old
    · exact .inr (references_key t inner p (Option.mem_toList.mp new))
  unfold tableCall
  split_ifs
  · exact ⟨rfl, rfl, found⟩
  · split
    · exact ⟨rfl, rfl, found⟩
    · split
      · exact ⟨rfl, rfl, found⟩
      · exact ⟨rfl, rfl, found⟩
    · exact ⟨rfl, rfl, referenced⟩
    · exact ⟨rfl, rfl, referenced⟩
    · exact ⟨rfl, rfl, found⟩
    · exact ⟨rfl, rfl, found⟩

lemma tableCalls_frame (calls : List Call) :
    ∀ (b b' : Builder) (t : Table) (refs : List (String × String)),
      (tableCalls calls (b, t, refs)).1.schema = b.schema ∧
        (tableCalls calls (b, t, refs)).2 = (tableCalls calls (b', t, refs)).2 ∧
        ∀ p ∈ (tableCalls calls (b, t, refs)).2.2, p ∈ refs ∨ ReferenceKey p := by
  induction calls with
  | nil => exact fun _ _ _ _ => ⟨rfl, rfl, fun _ member => .inl member⟩
  | cons inner rest ih =>
    intro b b' t refs
    obtain ⟨schema₁, snd₁, keys₁⟩ := tableCall_frame b b' t refs inner
    obtain ⟨schema₂, snd₂, keys₂⟩ := ih (tableCall b t refs inner).1 (tableCall b' t refs inner).1
      (tableCall b t refs inner).2.1 (tableCall b t refs inner).2.2
    have after : tableCalls (inner :: rest) (b', t, refs) = tableCalls rest
        ((tableCall b' t refs inner).1, (tableCall b t refs inner).2.1, (tableCall b t refs inner).2.2) := by
      rw [snd₁]
      rfl
    rw [after]
    refine ⟨schema₂.trans schema₁, snd₂, fun p member => ?_⟩
    rcases keys₂ p member with old | key
    · exact keys₁ p old
    · exact .inr key

/-! ### Relationships a call adds -/

lemma link_eq (b : Builder) (fk : ForeignKeyLink) :
    b.link fk = if b.schema.tables.contains fk.table then
      { b with
        schema := (b.schema.modifyTable fk.table (·.addConstraint fk.constraint)).addRelationship fk.relationship }
    else b.dangling fk.table "foreign key" :=
  rfl

lemma link_relationships {fk : ForeignKeyLink} {e : String × Relationship}
    (member : e ∈ (b.link fk).schema.relationships.entries) :
    e ∈ b.schema.relationships.entries ∨ e.2 = fk.relationship ∧ b.schema.tables.contains fk.table = true := by
  rw [link_eq] at member
  split at member
  · rcases mem_insertEntries member with rfl | old
    · exact .inr ⟨rfl, ‹_›⟩
    · exact .inl old
  · exact .inl member

lemma storesLink_link {fk : ForeignKeyLink} (present : b.schema.tables.contains fk.table = true) :
    StoresLink (b.link fk).schema fk := by
  rw [link_eq, if_pos present]
  obtain ⟨t, stored⟩ := contains_iff.mp present
  exact ⟨(fk.table, t.addConstraint fk.constraint), mem_modify_self stored, rfl, mem_insert_self⟩

lemma link_addsBacked (fk : ForeignKeyLink) : b.schema.AddsBacked (b.link fk).schema := by
  intro e member
  rcases link_relationships member with old | ⟨named, present⟩
  · exact .inl old
  · exact .inr (named ▸ (storesLink_link present).backed)

end Builder

/-- A later link keeps a stored one, unless it stores another constraint under its name in its
table. -/
lemma StoresLink.link {b : Builder} {q fk : ForeignKeyLink} (h : StoresLink b.schema q)
    (same : q.constraint.name = fk.constraint.name → q.table = fk.table → q.constraint = fk.constraint) :
    StoresLink (b.link fk).schema q := by
  rw [Builder.link_eq]
  split
  · obtain ⟨⟨k, t⟩, stored, named, held⟩ := h
    by_cases here : k = fk.table
    · subst here
      refine ⟨(fk.table, t.addConstraint fk.constraint), mem_modify_self stored, named, ?_⟩
      by_cases clash : q.constraint.name = fk.constraint.name
      · rw [same clash named.symm]
        exact mem_insert_self
      · exact mem_insert_of_ne held clash
    · exact ⟨(k, t), mem_modify_of_ne stored here, named, held⟩
  · exact h

namespace Builder

variable {b b' : Builder}

/-- Every relationship of `s` is one of `s₀`, or that of a link of `done` into `table` whose
constraint `s` still holds. -/
def LinkedSince (s₀ : Schema) (table : String) (done : List (String × String)) (s : Schema) : Prop :=
  ∀ e ∈ s.relationships.entries, e ∈ s₀.relationships.entries ∨
    ∃ p ∈ done, e.2 = (tableLink table p).relationship ∧ StoresLink s (tableLink table p)

lemma LinkedSince.link {s₀ : Schema} {table : String} {done : List (String × String)}
    {p : String × String} (h : LinkedSince s₀ table done b.schema)
    (functional : ∀ q ∈ done, q.1 = p.1 → q = p) :
    LinkedSince s₀ table (done ++ [p]) (b.link (tableLink table p)).schema := by
  intro e member
  rcases link_relationships member with old | ⟨named, present⟩
  · rcases h e old with older | ⟨q, listed, named, stores⟩
    · exact .inl older
    · -- a later link of the same column is the same link
      refine .inr ⟨q, List.mem_append_left _ listed, named, stores.link fun clash _ => ?_⟩
      rw [functional q listed (tableLink_column clash)]
  · exact .inr ⟨p, List.mem_append_right _ (List.mem_singleton_self p), named, storesLink_link present⟩

lemma foldl_link_linkedSince {s₀ : Schema} {table : String} :
    ∀ (refs done : List (String × String)) (b : Builder), LinkedSince s₀ table done b.schema →
      (∀ p ∈ done ++ refs, ∀ q ∈ done ++ refs, p.1 = q.1 → p = q) →
      LinkedSince s₀ table (done ++ refs) (refs.foldl (fun b p => b.link (tableLink table p)) b).schema
  | [], done, b, h, _ => by simpa using h
  | p :: rest, done, b, h, functional => by
    have linked := h.link fun q (listed : q ∈ done) same =>
      functional q (List.mem_append_left _ listed) p (List.mem_append_right _ List.mem_cons_self) same
    have later := foldl_link_linkedSince rest (done ++ [p]) _ linked (by simpa using functional)
    simpa using later

/-- Links of references that agree on the target of each column add their relationships backed. -/
lemma foldl_link_addsBacked {s : Schema} {table : String} {refs : List (String × String)}
    (same : b.schema.relationships = s.relationships)
    (functional : ∀ p ∈ refs, ∀ q ∈ refs, p.1 = q.1 → p = q) :
    s.AddsBacked (refs.foldl (fun b p => b.link (tableLink table p)) b).schema := by
  have start : LinkedSince s table [] b.schema := fun e member => .inl (same ▸ member)
  intro e member
  rcases foldl_link_linkedSince refs [] b start (by simpa using functional) e member with
    old | ⟨p, -, named, stores⟩
  · exact .inl old
  · exact .inr (named ▸ stores.backed)

lemma createTable_addsBacked (c : Call) : b.schema.AddsBacked (b.createTable c).schema := by
  cases named : c.strings.head? with
  | none =>
    unfold createTable
    rw [named]
    exact addsBacked_of_relationships rfl
  | some name =>
    rw [createTable_eq b c named]
    obtain ⟨schema, -, keys⟩ := tableCalls_frame c.block b b (initialTable name c) []
    refine foldl_link_addsBacked (by rw [← schema]; rfl) fun p listed q listed' same => ?_
    have key : ∀ p ∈ (tableCalls c.block (b, initialTable name c, [])).2.2, ReferenceKey p :=
      fun p listed => (keys p listed).resolve_left List.not_mem_nil
    exact (key p listed).unique (key q listed') same

lemma withTable_relationships (table what : String) (f : Table → Table) :
    (b.withTable table what f).schema.relationships = b.schema.relationships := by
  unfold withTable
  split <;> rfl

/-- **Each call adds its relationships backed.** -/
lemma apply_addsBacked (c : Call) : b.schema.AddsBacked (b.apply c).schema := by
  unfold apply
  split_ifs
  · exact addsBacked_of_relationships rfl
  · split
    · exact createTable_addsBacked c
    · unfold addIndexCall
      split
      · exact addsBacked_of_relationships rfl
      · exact addsBacked_of_relationships (withTable_relationships _ _ _)
    · unfold addForeignKey
      split
      · exact link_addsBacked _
      · exact addsBacked_of_relationships rfl
    · unfold addCheckConstraint
      split
      · exact addsBacked_of_relationships (withTable_relationships _ _ _)
      · exact addsBacked_of_relationships rfl
    · unfold createEnum
      split <;> exact addsBacked_of_relationships rfl
    · -- extensions leave the relationships alone
      refine addsBacked_of_relationships (List.foldlRecOn
        (motive := fun b' : Builder => b'.schema.relationships = b.schema.relationships) _ _ rfl
        fun _ same _ _ => same)
    · exact addsBacked_of_relationships rfl

/-! ### The schema does not depend on the problems met -/

lemma withTable_schema_congr (same : b.schema = b'.schema) (table what : String) (f : Table → Table) :
    (b.withTable table what f).schema = (b'.withTable table what f).schema := by
  unfold withTable
  rw [same]
  by_cases present : b'.schema.tables.contains table = true
  · rw [if_pos present, if_pos present]
  · rw [if_neg present, if_neg present]
    exact same

lemma link_schema_congr (same : b.schema = b'.schema) (fk : ForeignKeyLink) :
    (b.link fk).schema = (b'.link fk).schema := by
  rw [link_eq, link_eq, same]
  by_cases present : b'.schema.tables.contains fk.table = true
  · rw [if_pos present, if_pos present]
  · rw [if_neg present, if_neg present]
    exact same

lemma foldl_link_schema_congr (table : String) (refs : List (String × String)) :
    ∀ {b b' : Builder}, b.schema = b'.schema →
      (refs.foldl (fun b p => b.link (tableLink table p)) b).schema =
        (refs.foldl (fun b p => b.link (tableLink table p)) b').schema := by
  induction refs with
  | nil => exact id
  | cons p rest ih => exact fun same => ih (link_schema_congr same _)

lemma createTable_schema_congr (same : b.schema = b'.schema) (c : Call) :
    (b.createTable c).schema = (b'.createTable c).schema := by
  cases named : c.strings.head? with
  | none =>
    unfold createTable
    rw [named]
    exact same
  | some name =>
    rw [createTable_eq b c named, createTable_eq b' c named]
    obtain ⟨schema, built, -⟩ := tableCalls_frame c.block b b' (initialTable name c) []
    obtain ⟨schema', -, -⟩ := tableCalls_frame c.block b' b' (initialTable name c) []
    dsimp only
    rw [built]
    refine foldl_link_schema_congr name _ ?_
    -- the block builds the same table, into the same schema
    show (tableCalls c.block (b, initialTable name c, [])).1.schema.addTable _ =
      (tableCalls c.block (b', initialTable name c, [])).1.schema.addTable _
    rw [schema, schema', same]

lemma apply_schema_congr (same : b.schema = b'.schema) (c : Call) :
    (b.apply c).schema = (b'.apply c).schema := by
  unfold apply
  split_ifs
  · exact same
  · split
    · exact createTable_schema_congr same c
    · unfold addIndexCall
      split
      · exact same
      · exact withTable_schema_congr same _ _ _
    · unfold addForeignKey
      split
      · exact link_schema_congr same _
      · exact same
    · unfold addCheckConstraint
      split
      · exact withTable_schema_congr same _ _ _
      · exact same
    · unfold createEnum
      split
      · exact same
      · simp only [same]
    · -- each extension is inserted into the schema alone
      generalize c.strings = names
      induction names generalizing b b' with
      | nil => exact same
      | cons n rest ih =>
        refine ih ?_
        simp only [same]
    · exact same

end Builder

/-- The schema after one call, from the schema before it. -/
def step (s : Schema) (c : Call) : Schema := (({ schema := s } : Builder).apply c).schema

lemma foldl_apply_schema (calls : List Call) :
    ∀ b : Builder, (calls.foldl Builder.apply b).schema = calls.foldl step b.schema := by
  induction calls with
  | nil => exact fun _ => rfl
  | cons c rest ih =>
    intro b
    rw [List.foldl_cons, List.foldl_cons, ih]
    exact congrArg (rest.foldl step) (@Builder.apply_schema_congr b { schema := b.schema } rfl c)

/-- Every call of a run keeps the foreign keys of the schema it meets. -/
def KeepsForeignKeysRun : Schema → List Call → Prop
  | _, [] => True
  | s, c :: cs => s.KeepsForeignKeys (step s c) ∧ KeepsForeignKeysRun (step s c) cs

instance keepsForeignKeysRunDecidable : ∀ s cs, Decidable (KeepsForeignKeysRun s cs)
  | _, [] => isTrue trivial
  | s, c :: cs =>
    have := keepsForeignKeysRunDecidable (step s c) cs
    inferInstanceAs (Decidable (s.KeepsForeignKeys (step s c) ∧ KeepsForeignKeysRun (step s c) cs))

lemma foldl_step_relationshipsBacked (calls : List Call) :
    ∀ {s : Schema}, s.RelationshipsBacked → KeepsForeignKeysRun s calls →
      (calls.foldl step s).RelationshipsBacked := by
  induction calls with
  | nil => exact fun h _ => h
  | cons c rest ih =>
    exact fun h ⟨keeps, later⟩ => ih (h.step keeps (Builder.apply_addsBacked c)) later

lemma parseSchemaRb_relationshipsBacked (text : String)
    (keeps : KeepsForeignKeysRun {} (parseCalls text).1) :
    (parseSchemaRb text).value.RelationshipsBacked := by
  have value : (parseSchemaRb text).value = (parseCalls text).1.foldl step {} :=
    foldl_apply_schema _ _
  rw [value]
  exact foldl_step_relationshipsBacked _ relationshipsBacked_empty keeps

-- two tables and a foreign key keep every key; `create_table "bs"` once more drops the key and
-- leaves the relationship unbacked
example : ∃ calls : List Call, KeepsForeignKeysRun {} (calls.take 3) ∧ ¬ KeepsForeignKeysRun {} calls ∧
    ¬ (calls.foldl step {}).RelationshipsBacked :=
  ⟨[("create_table", ["as"]), ("create_table", ["bs"]), ("add_foreign_key", ["bs", "as"]),
      ("create_table", ["bs"])].map fun (name, tables) =>
        { receiver := none, name, args := tables.map .str, options := [], block := [], offset := 0 },
    by decide⟩

end Rails

end Schemata
