import Mathlib
import Schemata.Proofs.FatalProblems
import Schemata.Rails.Build
import Schemata.Prisma.Lower
import Schemata.Tbls.Convert

/-!
# Every front-end stores an object under its own name

A schema's maps are addressed by name: a pointer such as `/tables/users/columns/email` is
built from names, and the renderers print each object from its own `name` field. The two
agree when every entry of a map is stored under the name of the object it holds
(`Schema.Keyed`): tables, relationships, enums and extensions, and the columns, indexes and
constraints of every table. Table groups are stored under their identifiers and are left out.

No front-end breaks this. Each builds its schema from the empty one by a few kinds of change:

* storing an object under its own name (`addTable`, `addColumn`, `addIndex`,
  `addConstraint`, `addRelationship`, and enums and extensions inserted under their names);
* changing a stored table or column in a way that keeps its name (`Table.KeepsKeys`):
  setting flags or a comment, adding a constraint or an index.

Each kind keeps `Schema.Keyed` (the `Keyed.*` lemmas). The PostgreSQL reader absorbs lowered
statement fragments into its state, window after window, and the chunk driver keeps what
every read of a chunk keeps (`processInChunks_invariant`); the schema.rb, Prisma and tbls
readers fold their calls, blocks and entries. The main result is
`frontEnds_store_under_names`.
-/

namespace Schemata

/-! ## Maps whose entries are stored under their names -/

namespace NameMap

variable {α : Type} {P : String → α → Prop} {m : NameMap α} {k : String} {v : α}

/-- Every entry of a map satisfies `P` on its name and its value. -/
def Forall (P : String → α → Prop) (m : NameMap α) : Prop := ∀ e ∈ m.entries, P e.1 e.2

/-- Every entry of a map is stored under the name `nameOf` gives its value. -/
def Keyed (nameOf : α → String) (m : NameMap α) : Prop := m.Forall fun k v => k = nameOf v

lemma forall_empty : (empty : NameMap α).Forall P := fun _ absent => absurd absent List.not_mem_nil

/-- An entry after an insertion is the inserted one or was there before. -/
lemma mem_insertEntries {e : String × α} :
    ∀ {es : List (String × α)}, e ∈ insertEntries k v es → e = (k, v) ∨ e ∈ es
  | [], member => by simpa [insertEntries] using member
  | (k', v') :: rest, member => by
    unfold insertEntries at member
    split at member
    · -- the present name keeps its place and takes the new value
      rename_i same
      rw [beq_iff_eq] at same
      subst same
      rcases List.mem_cons.mp member with rfl | later
      · exact .inl rfl
      · exact .inr (List.mem_cons_of_mem _ later)
    · rcases List.mem_cons.mp member with rfl | later
      · exact .inr List.mem_cons_self
      · exact (mem_insertEntries later).imp_right (List.mem_cons_of_mem _)

lemma Forall.insert (h : m.Forall P) (hv : P k v) : (m.insert k v).Forall P := by
  intro e member
  rcases mem_insertEntries member with rfl | old
  · exact hv
  · exact h e old

lemma Forall.modify {f : α → α} (h : m.Forall P) (hf : ∀ v, P k v → P k (f v)) :
    (m.modify k f).Forall P := by
  intro e member
  obtain ⟨⟨k', v'⟩, old, rfl⟩ := List.mem_map.mp member
  by_cases same : k' = k
  · subst same
    simpa using hf v' (h _ old)
  · simpa [same] using h _ old

lemma Keyed.insert {nameOf : α → String} (h : m.Keyed nameOf) (named : k = nameOf v) :
    (m.insert k v).Keyed nameOf :=
  Forall.insert h named

lemma Keyed.modify {nameOf : α → String} {f : α → α} (h : m.Keyed nameOf)
    (keeps : ∀ v, nameOf (f v) = nameOf v) : (m.modify k f).Keyed nameOf :=
  Forall.modify h fun v named => named.trans (keeps v).symm

end NameMap

/-! ## Tables -/

namespace Table

open NameMap

/-- A table stores each column, index and constraint under its own name. -/
structure Keyed (t : Table) : Prop where
  columns : t.columns.Keyed Column.name
  indexes : t.indexes.Keyed Index.name
  constraints : t.constraints.Keyed Constraint.name

variable {t : Table}

/-- A table with nothing in it. -/
lemma keyed_bare (name : String) (comment : Option String) : ({ name, comment } : Table).Keyed :=
  ⟨forall_empty, forall_empty, forall_empty⟩

lemma Keyed.addColumn (h : t.Keyed) (c : Column) : (t.addColumn c).Keyed :=
  ⟨h.columns.insert rfl, h.indexes, h.constraints⟩

lemma Keyed.addIndex (h : t.Keyed) (i : Index) : (t.addIndex i).Keyed :=
  ⟨h.columns, h.indexes.insert rfl, h.constraints⟩

lemma Keyed.addConstraint (h : t.Keyed) (c : Constraint) : (t.addConstraint c).Keyed :=
  ⟨h.columns, h.indexes, h.constraints.insert rfl⟩

lemma Keyed.modifyColumn (h : t.Keyed) {n : String} {f : Column → Column}
    (keeps : ∀ c, (f c).name = c.name) : (t.modifyColumn n f).Keyed :=
  ⟨h.columns.modify keeps, h.indexes, h.constraints⟩

/-- A change of tables that keeps a table's name and keeps its entries under their names. -/
structure KeepsKeys (f : Table → Table) : Prop where
  name : ∀ t, (f t).name = t.name
  keyed : ∀ t, t.Keyed → (f t).Keyed

namespace KeepsKeys

variable {f g : Table → Table}

lemma addColumn (c : Table → Column) : KeepsKeys fun t => t.addColumn (c t) :=
  ⟨fun _ => rfl, fun _ h => h.addColumn _⟩

lemma addIndex (i : Table → Index) : KeepsKeys fun t => t.addIndex (i t) :=
  ⟨fun _ => rfl, fun _ h => h.addIndex _⟩

lemma addConstraint (c : Table → Constraint) : KeepsKeys fun t => t.addConstraint (c t) :=
  ⟨fun _ => rfl, fun _ h => h.addConstraint _⟩

lemma modifyColumn (n : String) {h : Column → Column} (keeps : ∀ c, (h c).name = c.name) :
    KeepsKeys fun t => t.modifyColumn n h :=
  ⟨fun _ => rfl, fun _ keyed => keyed.modifyColumn keeps⟩

lemma setComment (comment : Option String) : KeepsKeys fun t => { t with comment } :=
  ⟨fun _ => rfl, fun _ h => ⟨h.columns, h.indexes, h.constraints⟩⟩

lemma id : KeepsKeys fun t => t := ⟨fun _ => rfl, fun _ h => h⟩

lemma comp (hf : KeepsKeys f) (hg : KeepsKeys g) : KeepsKeys fun t => f (g t) :=
  ⟨fun t => (hf.name _).trans (hg.name t), fun t h => hf.keyed _ (hg.keyed t h)⟩

/-- A fold of changes that each keep keys keeps keys. -/
lemma foldl {β : Type} (xs : List β) {step : Table → β → Table}
    (each : ∀ x ∈ xs, KeepsKeys fun t => step t x) : KeepsKeys fun t => xs.foldl step t := by
  induction xs with
  | nil => exact id
  | cons x rest ih =>
    exact comp (ih fun y later => each y (List.mem_cons_of_mem x later)) (each x List.mem_cons_self)

end KeepsKeys

end Table

/-! ## Schemas -/

namespace Schema

open NameMap

/-- **Every entry is stored under its own name**: every table, relationship, enum and
extension, and every column, index and constraint of every table. -/
structure Keyed (s : Schema) : Prop where
  tables : s.tables.Forall fun k t => k = t.name ∧ t.Keyed
  relationships : s.relationships.Keyed Relationship.name
  enums : s.enums.Keyed EnumType.name
  extensions : s.extensions.Keyed Extension.name

variable {s : Schema}

lemma keyed_empty : ({} : Schema).Keyed := ⟨forall_empty, forall_empty, forall_empty, forall_empty⟩

lemma Keyed.addTable (h : s.Keyed) {t : Table} (ht : t.Keyed) : (s.addTable t).Keyed :=
  { h with tables := h.tables.insert ⟨rfl, ht⟩ }

lemma Keyed.modifyTable (h : s.Keyed) {n : String} {f : Table → Table} (hf : Table.KeepsKeys f) :
    (s.modifyTable n f).Keyed :=
  { h with tables := h.tables.modify fun t ⟨named, keyed⟩ => ⟨named.trans (hf.name t).symm, hf.keyed t keyed⟩ }

lemma Keyed.addRelationship (h : s.Keyed) (r : Relationship) : (s.addRelationship r).Keyed :=
  { h with relationships := h.relationships.insert rfl }

lemma Keyed.insertEnum (h : s.Keyed) {k : String} {e : EnumType} (named : k = e.name) :
    ({ s with enums := s.enums.insert k e } : Schema).Keyed :=
  { h with enums := h.enums.insert named }

lemma Keyed.insertExtension (h : s.Keyed) {k : String} {e : Extension} (named : k = e.name) :
    ({ s with extensions := s.extensions.insert k e } : Schema).Keyed :=
  { h with extensions := h.extensions.insert named }

end Schema

/-! ## tbls documents -/

namespace Tbls

open Table

lemma convertTable_keyed (e : TableEntry) : (convertTable e).Keyed := by
  unfold convertTable
  -- columns, then indexes, then the complete constraints, each stored under its name
  refine (KeepsKeys.foldl _ fun c _ => ?_).keyed _ ((KeepsKeys.foldl _ fun i _ =>
    KeepsKeys.addIndex fun _ => convertIndex i).keyed _ ((KeepsKeys.foldl _ fun c _ =>
      KeepsKeys.addColumn fun _ => convertColumn _ _ c).keyed _ (keyed_bare _ _)))
  cases convertConstraint c with
  | some k => exact KeepsKeys.addConstraint fun _ => k
  | none => exact KeepsKeys.id

lemma toSchema_keyed (d : Document) : d.toSchema.Keyed := by
  unfold Document.toSchema
  refine List.foldlRecOn (motive := Schema.Keyed) _ _ ?_ fun s keyed e _ => keyed.insertEnum rfl
  refine List.foldlRecOn (motive := Schema.Keyed) _ _ ?_ fun s keyed r _ => ?_
  · exact List.foldlRecOn (motive := Schema.Keyed) _ _ Schema.keyed_empty
      fun s keyed t _ => keyed.addTable (convertTable_keyed t)
  · cases convertRelation r with
    | some rel => exact keyed.addRelationship rel
    | none => exact keyed

lemma parseTbls_keyed (text : String) : (parseTbls text).value.Keyed := by
  unfold parseTbls
  split
  · exact Schema.keyed_empty
  · exact toSchema_keyed _

end Tbls

/-! ## Prisma documents -/

namespace Prisma

open Table

lemma blockAttribute_keyed (m : Model) {t : Table} (keyed : t.Keyed) (a : Attribute) :
    (blockAttribute m t a).Keyed := by
  unfold blockAttribute
  split
  · -- `@@id` marks its columns and adds the primary key
    refine Keyed.addConstraint ((KeepsKeys.foldl _ fun n _ => KeepsKeys.modifyColumn n ?_).keyed _ keyed) _
    exact fun _ => rfl
  · -- `@@unique` marks a single column and adds the constraint
    refine Keyed.addConstraint ?_ _
    split
    · exact keyed.modifyColumn fun _ => rfl
    · exact keyed
  · exact keyed.addIndex _
  · exact keyed

lemma table_keyed (d : Document) (m : Model) : (table d m).1.Keyed := by
  unfold table
  dsimp only
  refine List.foldlRecOn (motive := Table.Keyed) _ _ ?_ fun t keyed a _ => blockAttribute_keyed m keyed a
  -- the scalar fields' columns and their key constraints are stored under their names
  refine List.foldlRecOn (motive := fun acc : Table × List Problem => acc.1.Keyed) _ _
    (keyed_bare _ _) fun acc keyed f _ => ?_
  dsimp only
  split_ifs
  · exact ((keyed.addColumn _).addConstraint _).addConstraint _
  · exact (keyed.addColumn _).addConstraint _
  · exact (keyed.addColumn _).addConstraint _
  · exact keyed.addColumn _

lemma foreignKey_keyed (d : Document) (m : Model) (f : Field) (r : Attribute) {s : Schema}
    (keyed : s.Keyed) : (foreignKey d m f r s).1.Keyed := by
  unfold foreignKey
  dsimp only
  split
  · exact keyed
  · split
    · exact keyed
    · split
      · -- the constraint goes into the table, the relationship into the schema
        refine Schema.Keyed.addRelationship ?_ _
        split
        · exact keyed.modifyTable (KeepsKeys.addConstraint fun _ => _)
        · exact keyed
      · exact keyed

lemma lower_keyed (d : Document) : (lower d).1.Keyed := by
  unfold lower
  dsimp only
  refine List.foldlRecOn (motive := fun acc : Schema × List Problem => acc.1.Keyed) _ _ ?_
    fun acc keyed m _ => ?_
  · -- the enums under their stored names, then one table per model
    refine List.foldlRecOn (motive := fun acc : Schema × List Problem => acc.1.Keyed) _ _ ?_
      fun acc keyed m _ => keyed.addTable (table_keyed d m)
    exact List.foldlRecOn (motive := Schema.Keyed) _ _ Schema.keyed_empty
      fun s keyed e _ => keyed.insertEnum rfl
  · -- every relation field adds its foreign key
    refine List.foldlRecOn (motive := fun acc : Schema × List Problem => acc.1.Keyed) _ _ keyed
      fun acc keyed f _ => ?_
    split
    · exact foreignKey_keyed d m f _ keyed
    · exact keyed

lemma parsePrisma_keyed (text : String) : (parsePrisma text).value.Keyed := by
  unfold parsePrisma
  split
  · exact Schema.keyed_empty
  · exact lower_keyed _

end Prisma

/-! ## schema.rb calls -/

namespace Rails

open Table

/-- Storing an index, with the constraint and column flag of a unique one, keeps keys. -/
lemma addIndex_keepsKeys (i : Index) : KeepsKeys (addIndex · i) := by
  constructor
  · intro t
    unfold addIndex
    split_ifs
    · split <;> rfl
    · rfl
  · intro t keyed
    unfold addIndex
    refine Keyed.addIndex ?_ i
    split_ifs
    · split
      · exact (keyed.addConstraint _).modifyColumn fun _ => rfl
      · exact keyed.addConstraint _
    · exact keyed

lemma references_keyed {t : Table} (keyed : t.Keyed) (c : Call) : (references t c).1.Keyed := by
  unfold references
  split
  · exact keyed
  · -- the reference column, a polymorphic type column, an index
    dsimp only
    split_ifs
    · exact (addIndex_keepsKeys _).keyed _ ((keyed.addColumn _).addColumn _)
    · exact (addIndex_keepsKeys _).keyed _ (keyed.addColumn _)
    · exact (keyed.addColumn _).addColumn _
    · exact keyed.addColumn _

lemma markPrimaryColumns_keyed {t : Table} (keyed : t.Keyed) : (markPrimaryColumns t).Keyed := by
  unfold markPrimaryColumns
  split
  · refine (KeepsKeys.foldl _ fun n _ => KeepsKeys.modifyColumn n ?_).keyed _ keyed
    exact fun _ => rfl
  · exact keyed

namespace Builder

variable {b : Builder}

lemma withTable_keyed (keyed : b.schema.Keyed) (table what : String) {f : Table → Table}
    (hf : KeepsKeys f) : (b.withTable table what f).schema.Keyed := by
  unfold withTable
  split
  · exact keyed.modifyTable hf
  · exact keyed

lemma link_keyed (keyed : b.schema.Keyed) (fk : ForeignKeyLink) : (b.link fk).schema.Keyed := by
  unfold link
  split
  · exact (keyed.modifyTable (KeepsKeys.addConstraint fun _ => _)).addRelationship _
  · exact keyed

/-- A call inside a `create_table` block changes only the table being built, and stores what
it adds under its name. -/
lemma tableCall_keyed (keyed : b.schema.Keyed) {t : Table} (built : t.Keyed)
    (fks : List (String × String)) (inner : Call) :
    (tableCall b t fks inner).1.schema.Keyed ∧ (tableCall b t fks inner).2.1.Keyed := by
  unfold tableCall
  split_ifs
  · exact ⟨keyed, built⟩
  · split
    · exact ⟨keyed, (addIndex_keepsKeys _).keyed _ built⟩
    · split
      · exact ⟨keyed, built.addConstraint _⟩
      · exact ⟨keyed, built⟩
    · exact ⟨keyed, references_keyed built inner⟩
    · exact ⟨keyed, references_keyed built inner⟩
    · exact ⟨keyed, List.foldlRecOn (motive := Table.Keyed) _ _ built fun t keyed n _ => keyed.addColumn _⟩
    · refine ⟨keyed, List.foldlRecOn (motive := Table.Keyed) _ _ built fun t keyed n _ => ?_⟩
      dsimp only
      split_ifs
      · exact (keyed.addConstraint _).addColumn _
      · exact keyed.addColumn _

/-- The calls of a `create_table` block, one after another. -/
lemma tableCalls_keyed (calls : List Call) {t : Table} {fks : List (String × String)}
    (keyed : b.schema.Keyed) (built : t.Keyed) :
    (calls.foldl (fun acc inner => tableCall acc.1 acc.2.1 acc.2.2 inner) (b, t, fks)).1.schema.Keyed ∧
      (calls.foldl (fun acc inner => tableCall acc.1 acc.2.1 acc.2.2 inner) (b, t, fks)).2.1.Keyed :=
  List.foldlRecOn (motive := fun acc : Builder × Table × List (String × String) =>
      acc.1.schema.Keyed ∧ acc.2.1.Keyed) _ _ ⟨keyed, built⟩
    fun _ kept inner _ => tableCall_keyed kept.1 kept.2 _ inner

lemma createTable_keyed (keyed : b.schema.Keyed) (c : Call) : (b.createTable c).schema.Keyed := by
  unfold createTable
  split
  · exact keyed
  · dsimp only
    refine List.foldlRecOn (motive := fun b : Builder => b.schema.Keyed) _ _ ?_
      fun b keyed fk _ => link_keyed keyed _
    -- the table: its primary key, the block's calls, the primary flags
    refine Schema.Keyed.addTable (tableCalls_keyed c.block keyed ?_).1
      (markPrimaryColumns_keyed (tableCalls_keyed c.block keyed ?_).2) <;>
    · split
      · exact (keyed_bare _ _).addConstraint _
      · split_ifs
        · exact keyed_bare _ _
        · exact ((keyed_bare _ _).addColumn _).addConstraint _

lemma apply_keyed (keyed : b.schema.Keyed) (c : Call) : (b.apply c).schema.Keyed := by
  unfold apply
  split_ifs
  · exact keyed
  · split
    · exact createTable_keyed keyed c
    · unfold addIndexCall
      split
      · exact keyed
      · exact withTable_keyed keyed _ _ (addIndex_keepsKeys _)
    · unfold addForeignKey
      split
      · exact link_keyed keyed _
      · exact keyed
    · unfold addCheckConstraint
      split
      · exact withTable_keyed keyed _ _ (KeepsKeys.addConstraint _)
      · exact keyed
    · unfold createEnum
      split
      · exact keyed
      · exact keyed.insertEnum rfl
    · refine List.foldlRecOn (motive := fun b : Builder => b.schema.Keyed) _ _ keyed
        fun b keyed n _ => ?_
      dsimp only
      -- only the normalized name's use as both key and name matters, not its spelling
      generalize Extensions.normalize n = name
      exact keyed.insertExtension rfl
    · exact keyed

end Builder

lemma parseSchemaRb_keyed (text : String) : (parseSchemaRb text).value.Keyed :=
  List.foldlRecOn (motive := fun b : Builder => b.schema.Keyed) _ _ Schema.keyed_empty
    fun _ keyed c _ => Builder.apply_keyed keyed c

end Rails

/-! ## PostgreSQL statements -/

namespace Sql

open Table

/-- Reflecting a key constraint on column flags keeps keys. -/
lemma markColumns_keepsKeys (c : Constraint) : KeepsKeys (markColumns · c) := by
  cases c with
  | primaryKey name columns =>
    refine KeepsKeys.foldl columns fun n _ => KeepsKeys.modifyColumn n ?_
    exact fun _ => rfl
  | unique name columns =>
    rcases columns with _ | ⟨n, _ | ⟨other, rest⟩⟩
    · exact KeepsKeys.id
    · exact KeepsKeys.modifyColumn n fun _ => rfl
    · exact KeepsKeys.id
  | check => exact KeepsKeys.id
  | foreignKey => exact KeepsKeys.id

lemma lowerCreateTable_keyed (name : String) (elements : List TableElement) :
    ∃ t fks, lowerCreateTable name elements = .table t fks ∧ t.Keyed := by
  unfold lowerCreateTable
  dsimp only
  refine ⟨_, _, rfl, ?_⟩
  -- the key constraints, each after the flags of its columns
  refine (KeepsKeys.foldl _ fun c _ =>
    (KeepsKeys.addConstraint fun _ => c).comp (markColumns_keepsKeys c)).keyed _ ?_
  -- the columns; table constraints are set aside
  refine List.foldlRecOn
    (motive := fun acc : Table × List Constraint × List PendingForeignKey => acc.1.Keyed) _ _
    (keyed_bare name none) fun acc keyed e _ => ?_
  cases e with
  | column d => exact keyed.addColumn _
  | constraint tc =>
    dsimp only
    split <;> exact keyed

/-- A fragment that brings a table brings one whose entries are stored under their names. -/
def Fragment.Keyed : Fragment → Prop
  | .table t _ => t.Keyed
  | _ => True

lemma lower_keyed (s : Statement) : ∀ f ∈ lower s, f.Keyed := by
  intro f member
  cases s with
  | createTable name elements =>
    obtain ⟨t, fks, made, keyed⟩ := lowerCreateTable_keyed name elements
    simp only [lower, made, List.mem_singleton] at member
    subst member
    exact keyed
  | alterTable table commands =>
    obtain ⟨command, -, made⟩ := List.mem_filterMap.mp member
    cases command with
    | addConstraint tc =>
      cases made
      unfold lowerTableConstraint
      split <;> trivial
    | addColumn d =>
      cases made
      trivial
    | other => cases made
  | comment target text => cases target <;> simp_all [lower, Fragment.Keyed]
  | _ => simp_all [lower, lowerCreateIndex, Fragment.Keyed]

namespace ConvertState

variable {st : ConvertState}

lemma withTable_keyed (keyed : st.schema.Keyed) (table what : String) {f : Table → Table}
    (hf : KeepsKeys f) : (st.withTable table what f).schema.Keyed := by
  unfold withTable
  split
  · exact keyed.modifyTable hf
  · exact keyed

lemma absorbForeignKey_keyed (keyed : st.schema.Keyed) (table : String) (fk : PendingForeignKey) :
    (st.absorbForeignKey table fk).schema.Keyed := by
  rw [absorbForeignKey_eq]
  split
  · split
    · exact (keyed.modifyTable (KeepsKeys.addConstraint fun _ => _)).addRelationship _
    · exact keyed
  · exact keyed

lemma foldl_absorbForeignKey_keyed (keyed : st.schema.Keyed) (table : String)
    (fks : List PendingForeignKey) :
    (fks.foldl (fun st fk => st.absorbForeignKey table fk) st).schema.Keyed :=
  List.foldlRecOn (motive := fun st : ConvertState => st.schema.Keyed) _ _ keyed
    fun _ keyed fk _ => absorbForeignKey_keyed keyed table fk

/-- Absorbing a fragment stores what it brings under its name and changes tables only in
ways that keep their names. -/
lemma absorb_keyed (keyed : st.schema.Keyed) {f : Fragment} (brought : f.Keyed) :
    (st.absorb f).schema.Keyed := by
  cases f with
  | table t fks => exact foldl_absorbForeignKey_keyed (keyed.addTable brought) t.name fks
  | column table c constraints fks =>
    rw [absorb]
    split
    · refine foldl_absorbForeignKey_keyed (withTable_keyed keyed table _ ?_) table fks
      exact (KeepsKeys.foldl constraints fun c _ => KeepsKeys.addConstraint fun _ => c).comp
        (KeepsKeys.addColumn fun _ => c)
    · exact keyed
  | constraint table c =>
    exact withTable_keyed keyed table _
      ((KeepsKeys.addConstraint fun _ => c).comp (markColumns_keepsKeys c))
  | foreignKey table fk => exact absorbForeignKey_keyed keyed table fk
  | index table i => exact withTable_keyed keyed table _ (KeepsKeys.addIndex fun _ => i)
  | tableComment table comment => exact withTable_keyed keyed table _ (KeepsKeys.setComment comment)
  | columnComment table column comment =>
    rw [absorb]
    split
    · exact keyed.modifyTable (KeepsKeys.modifyColumn column fun _ => rfl)
    · exact keyed
  | enumType e => exact keyed.insertEnum rfl
  | extension e => exact keyed.insertExtension rfl
  | warning p => exact keyed

end ConvertState

lemma convert_keyed (src : SourceText) (offset : Nat) {st : ConvertState}
    (keyed : st.schema.Keyed) (statements : List RawStatement) :
    (convert src offset st statements).schema.Keyed := by
  unfold convert
  refine List.foldlRecOn (motive := fun st : ConvertState => st.schema.Keyed) _ _ keyed
    fun st keyed raw _ => ?_
  refine List.foldlRecOn (motive := fun st : ConvertState => st.schema.Keyed) _ _ keyed
    fun st keyed f member => ConvertState.absorb_keyed keyed ?_
  -- a statement's fragments, or the warning of one that does not parse
  split at member
  · exact lower_keyed _ f member
  · simp_all [Fragment.Keyed]

lemma readChunk_keyed {st : ConvertState} (keyed : st.schema.Keyed) (chunk : String)
    (offset : Nat) (atEnd : Bool) : (readChunk st chunk offset atEnd).1.schema.Keyed := by
  unfold readChunk
  dsimp only
  split
  · exact convert_keyed _ _ keyed _
  · split
    · exact convert_keyed _ _ keyed _
    · split
      · exact convert_keyed _ _ keyed _
      · exact keyed

/-- Every window the driver hands to the reader keeps the schema keyed, so the whole reading
does, for every window size; a reading that panics gives the empty schema. -/
lemma parsePostgres_keyed (input : String) (chunkSize : Nat) :
    (parsePostgres input chunkSize).value.Keyed := by
  unfold parsePostgres
  cases ran : runPostgres input chunkSize with
  | none => exact Schema.keyed_empty
  | some r =>
    exact processInChunks_invariant (fun st : ConvertState => st.schema.Keyed)
      (fun _ chunk offset keyed => readChunk_keyed keyed chunk offset _) input chunkSize {}
      Schema.keyed_empty r ran

end Sql

/-- **Every front-end stores each object under its own name.** For every source text, and for
PostgreSQL DDL every window size, the schema read by each of the four front-ends holds every
table, relationship, enum and extension, and every column, index and constraint of every
table, under the object's own name. -/
theorem frontEnds_store_under_names (text : String) (chunkSize : Nat) :
    (Sql.parsePostgres text chunkSize).value.Keyed ∧ (Rails.parseSchemaRb text).value.Keyed ∧
      (Prisma.parsePrisma text).value.Keyed ∧ (Tbls.parseTbls text).value.Keyed :=
  ⟨Sql.parsePostgres_keyed text chunkSize, Rails.parseSchemaRb_keyed text,
    Prisma.parsePrisma_keyed text, Tbls.parseTbls_keyed text⟩

end Schemata
