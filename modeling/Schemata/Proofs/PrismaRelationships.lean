import Mathlib
import Schemata.Proofs.RelationshipBacking

/-!
# Prisma relationships are backed

A Prisma document lowers to a schema in two phases: every model gives a table, and then every
relation field whose `fields:` and `references:` name columns stores a foreign key in its
model's table and adds the relationship the key backs. The tables of the first phase hold
primary keys and unique constraints only, and every model's table is there when its foreign
keys come; so a relationship can lose its backing only to a later foreign key stored under the
same name in the same table. When the relation fields of a document name their foreign keys
apart in each table (`foreignKeyNames`), every relationship is backed
(`lower_relationshipsBacked`).

The last section gathers the three front-ends that read relationships from foreign keys.
-/

namespace Schemata

open NameMap Schema

/-- No constraint of the table is a foreign key. -/
def Table.NoForeignKeys (t : Table) : Prop := t.constraints.Forall fun _ c => c.isForeignKey = false

namespace Prisma

/-! ## The tables -/

lemma foldl_modifyColumn_name (g : Column → Column) (ns : List String) :
    ∀ {t : Table}, (ns.foldl (fun t n => t.modifyColumn n g) t).name = t.name := by
  induction ns with
  | nil => exact rfl
  | cons n rest ih => exact ih

lemma blockAttribute_name (m : Model) (t : Table) (a : Attribute) :
    (blockAttribute m t a).name = t.name := by
  unfold blockAttribute
  split
  · exact foldl_modifyColumn_name _ _
  · dsimp only
    split <;> rfl
  · rfl
  · rfl

lemma blockAttribute_noForeignKeys (m : Model) {t : Table} (plain : t.NoForeignKeys) (a : Attribute) :
    (blockAttribute m t a).NoForeignKeys := by
  unfold blockAttribute
  split
  · -- `@@id` marks columns and adds the primary key
    refine Forall.insert ?_ rfl
    unfold Table.NoForeignKeys at plain
    rwa [Sql.foldl_modifyColumn_constraints]
  · dsimp only
    split <;> exact Forall.insert plain rfl
  · exact plain
  · exact plain

/-- A model's table is named after the model and holds no foreign key. -/
lemma table_plain (d : Document) (m : Model) :
    (table d m).1.name = m.tableName ∧ (table d m).1.NoForeignKeys := by
  unfold table
  dsimp only
  refine List.foldlRecOn (motive := fun t : Table => t.name = m.tableName ∧ t.NoForeignKeys) _ _ ?_
    fun t ⟨named, plain⟩ a _ => ⟨(blockAttribute_name m t a).trans named, blockAttribute_noForeignKeys m plain a⟩
  -- the scalar fields: their columns, and their primary and unique keys
  refine List.foldlRecOn
    (motive := fun acc : Table × List Problem => acc.1.name = m.tableName ∧ acc.1.NoForeignKeys) _ _
    ⟨rfl, forall_empty⟩ fun acc ⟨named, plain⟩ f _ => ?_
  dsimp only
  split_ifs
  · exact ⟨named, Forall.insert (Forall.insert plain rfl) rfl⟩
  · exact ⟨named, Forall.insert plain rfl⟩
  · exact ⟨named, Forall.insert plain rfl⟩
  · exact ⟨named, plain⟩

/-- The schema of a document's enums and model tables, before any foreign key. -/
def tablesSchema (d : Document) : Schema :=
  d.models.foldl (fun s m => s.addTable (table d m).1)
    (d.enums.foldl (fun s e =>
      let name := e.storedName
      { s with enums := s.enums.insert name { name, values := e.values, comment := e.doc } }) {})

lemma tablesSchema_relationships (d : Document) : (tablesSchema d).relationships = .empty := by
  unfold tablesSchema
  refine List.foldlRecOn (motive := fun s : Schema => s.relationships = .empty) _ _ ?_ fun _ empty _ _ => empty
  exact List.foldlRecOn (motive := fun s : Schema => s.relationships = .empty) _ _ rfl fun _ empty _ _ => empty

lemma tablesSchema_noForeignKeys (d : Document) :
    (tablesSchema d).tables.Forall fun _ t => t.NoForeignKeys := by
  unfold tablesSchema
  refine List.foldlRecOn (motive := fun s : Schema => s.tables.Forall fun _ t => t.NoForeignKeys) d.models
    (fun s m => s.addTable (table d m).1) ?_
    fun s (plain : s.tables.Forall fun _ t => t.NoForeignKeys) m _ => Forall.insert plain (table_plain d m).2
  -- the enums leave the tables as they are
  refine List.foldlRecOn (motive := fun s : Schema => s.tables.Forall fun _ t => t.NoForeignKeys) _ _ ?_ ?_
  · exact forall_empty
  · exact fun _ plain _ _ => plain

lemma contains_insert_self {α : Type} (m : NameMap α) (k : String) (v : α) : (m.insert k v).contains k = true :=
  contains_iff.mpr ⟨v, mem_insert_self⟩

lemma contains_insert_of_contains {α : Type} {m : NameMap α} {k k' : String} {v : α}
    (held : m.contains k' = true) : (m.insert k v).contains k' = true := by
  obtain ⟨v', stored⟩ := contains_iff.mp held
  by_cases same : k' = k
  · rw [same]
    exact contains_insert_self m k v
  · exact contains_iff.mpr ⟨v', mem_insert_of_ne stored same⟩

/-- Every model's table is stored under the model's table name. -/
lemma tablesSchema_contains (d : Document) :
    ∀ m ∈ d.models, (tablesSchema d).tables.contains m.tableName = true := by
  have stored : ∀ (ms : List Model) (s : Schema) (n : String),
      s.tables.contains n = true ∨ (∃ m ∈ ms, m.tableName = n) →
        (ms.foldl (fun s m => s.addTable (table d m).1) s).tables.contains n = true := by
    intro ms
    induction ms with
    | nil => exact fun s n held => held.resolve_right fun ⟨_, absent, _⟩ => absurd absent List.not_mem_nil
    | cons m rest ih =>
      intro s n held
      refine ih _ n ?_
      rcases held with old | ⟨m', listed, named⟩
      · exact .inl (contains_insert_of_contains old)
      · rcases List.mem_cons.mp listed with rfl | later
        · left
          rw [← named, ← (table_plain d m').1]
          exact contains_insert_self _ _ _
        · exact .inr ⟨m', later, named⟩
  exact fun m listed => stored _ _ _ (.inr ⟨m, listed, rfl⟩)

/-! ## The foreign keys -/

/-- The foreign key the relation field `f` of `m` stores, when its `fields:` and `references:`
name columns of `m` and of the model it names. -/
def foreignKeyConstraint? (d : Document) (m : Model) (f : Field) (r : Attribute) : Option Constraint :=
  if (r.identList (some "fields")).isEmpty then none else
  match d.model? f.type with
  | none => none
  | some target =>
    match columnNames m (r.identList (some "fields")),
      columnNames target (r.identList (some "references")) with
    | some columns@(_ :: _), some targetColumns@(_ :: _) =>
      some (.foreignKey
        ((r.strArg? (some "map")).getD (m.tableName ++ "_" ++ "_".intercalate columns ++ "_fkey"))
        columns target.tableName targetColumns (action (r.arg? (some "onUpdate")))
        (action (r.arg? (some "onDelete"))))
    | _, _ => none

/-- A relation field leaves the schema as it is, or stores its foreign key in the model's table,
if the table is there, and adds the relationship the key backs. -/
lemma foreignKey_fst (d : Document) (m : Model) (f : Field) (r : Attribute) (s : Schema) :
    (foreignKeyConstraint? d m f r = none ∧ (foreignKey d m f r s).1 = s) ∨
      ∃ c rel, foreignKeyConstraint? d m f r = some c ∧ c.Backs rel ∧ rel.foreignTable = m.tableName ∧
        (foreignKey d m f r s).1 =
          (if s.tables.contains m.tableName then s.modifyTable m.tableName (·.addConstraint c) else s).addRelationship
            rel := by
  unfold foreignKey foreignKeyConstraint?
  dsimp only
  by_cases declared : (r.identList (some "fields")).isEmpty = true
  · rw [if_pos declared, if_pos declared]
    exact .inl ⟨rfl, rfl⟩
  · rw [if_neg declared, if_neg declared]
    cases d.model? f.type with
    | none => exact .inl ⟨rfl, rfl⟩
    | some target =>
      dsimp only
      match columnNames m (r.identList (some "fields")),
        columnNames target (r.identList (some "references")) with
      | some (column :: columns), some (targetColumn :: targetColumns) =>
        exact .inr ⟨_, _, rfl, Constraint.backs_foreignKey.mpr ⟨rfl, rfl, rfl, rfl, rfl⟩, rfl, rfl⟩
      | none, _ => exact .inl ⟨rfl, rfl⟩
      | some [], _ => exact .inl ⟨rfl, rfl⟩
      | some (_ :: _), none => exact .inl ⟨rfl, rfl⟩
      | some (_ :: _), some [] => exact .inl ⟨rfl, rfl⟩

/-- The table and the name under which the relation field `f` of `m` stores its foreign key, if
it stores one. -/
def fieldForeignKeyNames (d : Document) (m : Model) (f : Field) : List (String × String) :=
  (((f.attribute? "relation").bind (foreignKeyConstraint? d m f)).map fun c => (m.tableName, c.name)).toList

/-- The tables and names under which the relation fields of a document store their foreign keys,
in the order they are stored. -/
def foreignKeyNames (d : Document) : List (String × String) :=
  d.models.flatMap fun m => m.fields.flatMap (fieldForeignKeyNames d m)

/-- The schema after the field `f` of `m` stores its foreign key, if it has one. -/
def fieldStep (d : Document) (m : Model) (s : Schema) (f : Field) : Schema :=
  match f.attribute? "relation" with
  | some r => (foreignKey d m f r s).1
  | none => s

/-- Lowering builds the tables, then lets every field of every model store its foreign key. -/
lemma lower_fst (d : Document) :
    (lower d).1 = d.models.foldl (fun s m => m.fields.foldl (fieldStep d m) s) (tablesSchema d) := by
  unfold lower tablesSchema
  dsimp only
  -- the schema of each phase is a fold of its own, whatever the problems met
  rw [← @List.foldl_hom _ _ _ Prod.fst _ (fun s m => m.fields.foldl (fieldStep d m) s) _ _ fun acc m => ?_,
    ← @List.foldl_hom _ _ _ Prod.fst _ (fun s m => s.addTable (table d m).1) _ _ fun _ _ => rfl]
  refine @List.foldl_hom _ _ _ Prod.fst _ (fieldStep d m) _ _ fun acc f => ?_
  unfold fieldStep
  cases f.attribute? "relation" <;> rfl

/-- The state of the foreign-key phase: every relationship backed, every model's table stored,
and every foreign key stored under a table and a name of `done`. -/
structure Linking (d : Document) (done : List (String × String)) (s : Schema) : Prop where
  backed : s.RelationshipsBacked
  tables : ∀ m ∈ d.models, s.tables.contains m.tableName = true
  keys : ∀ e ∈ s.tables.entries, ∀ k ∈ e.2.constraints.entries, k.2.isForeignKey = true → (e.1, k.1) ∈ done

variable {d : Document} {done : List (String × String)} {s : Schema}

lemma linking_tablesSchema (d : Document) : Linking d [] (tablesSchema d) where
  backed := by
    rw [RelationshipsBacked, tablesSchema_relationships]
    exact forall_empty
  tables := tablesSchema_contains d
  keys e stored k held fk := by
    rw [tablesSchema_noForeignKeys d e stored k held] at fk
    cases fk

lemma Linking.mono (h : Linking d done s) {more : List (String × String)} : Linking d (done ++ more) s :=
  { h with keys := fun e stored k held fk => List.mem_append_left _ (h.keys e stored k held fk) }

/-- Storing a foreign key under a table and a name not used before, with the relationship it
backs, keeps the state. -/
lemma Linking.store (h : Linking d done s) {c : Constraint} {rel : Relationship} (backs : c.Backs rel)
    (present : s.tables.contains rel.foreignTable = true) (new : (rel.foreignTable, c.name) ∉ done) :
    Linking d (done ++ [(rel.foreignTable, c.name)])
      ((s.modifyTable rel.foreignTable (·.addConstraint c)).addRelationship rel) where
  backed := by
    -- no foreign key of the table is stored under the new name
    refine h.backed.step (keepsForeignKeys_modifyTable fun t stored => ?_)
      (addsBacked_storeForeignKey backs present)
    refine Table.keepsForeignKeys_addConstraint fun k held same => ?_
    cases fk : k.2.isForeignKey with
    | false => rfl
    | true => exact absurd (same ▸ h.keys _ stored k held fk) new
  tables m listed := contains_modify.trans (h.tables m listed)
  keys := by
    intro e stored k held fk
    obtain ⟨t, old, changed⟩ := mem_modify stored
    rw [changed] at held
    split at held
    · next here =>
      rcases mem_insertEntries held with rfl | older
      · rw [here]
        exact List.mem_append_right _ (List.mem_singleton_self _)
      · exact List.mem_append_left _ (h.keys _ old k older fk)
    · exact List.mem_append_left _ (h.keys _ old k held fk)

/-- **One field keeps the state** when its foreign key's table and name are new. -/
lemma Linking.afterField {m : Model} (model : m ∈ d.models) (h : Linking d done s) (f : Field)
    (fresh : ∀ p ∈ fieldForeignKeyNames d m f, p ∉ done) :
    Linking d (done ++ fieldForeignKeyNames d m f) (fieldStep d m s f) := by
  unfold fieldStep fieldForeignKeyNames at *
  rcases attr : f.attribute? "relation" with _ | r
  · exact h.mono
  · simp only [attr, Option.bind_some] at fresh ⊢
    rcases foreignKey_fst d m f r s with ⟨none, same⟩ | ⟨c, rel, stored, backs, named, after⟩
    · rw [none, same]
      exact h.mono
    · rw [stored] at fresh ⊢
      rw [after, if_pos (h.tables m model), ← named]
      rw [← named] at fresh
      exact h.store backs (named ▸ h.tables m model) (fresh _ (List.mem_singleton_self _))

lemma fresh_of_nodup {done more rest : List (String × String)} (distinct : (done ++ more ++ rest).Nodup) :
    ∀ p ∈ more, p ∉ done :=
  fun _ listed old => List.disjoint_of_nodup_append (List.Nodup.of_append_left distinct) old listed

lemma foldl_fieldStep_linking {m : Model} (model : m ∈ d.models) :
    ∀ (fs : List Field) {done : List (String × String)} {s : Schema}, Linking d done s →
      (done ++ fs.flatMap (fieldForeignKeyNames d m)).Nodup →
      Linking d (done ++ fs.flatMap (fieldForeignKeyNames d m)) (fs.foldl (fieldStep d m) s)
  | [], _, _, h, _ => by simpa using h
  | f :: rest, done, s, h, distinct => by
    rw [List.flatMap_cons, ← List.append_assoc] at distinct ⊢
    exact foldl_fieldStep_linking model rest (h.afterField model f (fresh_of_nodup distinct)) distinct

lemma foldl_models_linking :
    ∀ (ms : List Model), (∀ m ∈ ms, m ∈ d.models) → ∀ {done : List (String × String)} {s : Schema},
      Linking d done s → (done ++ ms.flatMap fun m => m.fields.flatMap (fieldForeignKeyNames d m)).Nodup →
      Linking d (done ++ ms.flatMap fun m => m.fields.flatMap (fieldForeignKeyNames d m))
        (ms.foldl (fun s m => m.fields.foldl (fieldStep d m) s) s)
  | [], _, _, _, h, _ => by simpa using h
  | m :: rest, listed, done, s, h, distinct => by
    rw [List.flatMap_cons, ← List.append_assoc] at distinct ⊢
    have model := listed m List.mem_cons_self
    exact foldl_models_linking rest (fun m' later => listed m' (List.mem_cons_of_mem _ later))
      (foldl_fieldStep_linking model m.fields h (List.Nodup.of_append_left distinct)) distinct

/-- **Every relationship of a lowered document is backed** when its relation fields name their
foreign keys apart in each table. -/
lemma lower_relationshipsBacked (d : Document) (distinct : (foreignKeyNames d).Nodup) :
    (lower d).1.RelationshipsBacked := by
  rw [lower_fst]
  exact (foldl_models_linking d.models (fun _ listed => listed) (linking_tablesSchema d)
    (by simpa [foreignKeyNames] using distinct)).backed

lemma parsePrisma_relationshipsBacked (text : String)
    (distinct : ∀ d errors, parseDocument text = .ok (d, errors) → (foreignKeyNames d).Nodup) :
    (parsePrisma text).value.RelationshipsBacked := by
  unfold parsePrisma
  split
  · exact relationshipsBacked_empty
  · next d errors parsed => exact lower_relationshipsBacked d (distinct d errors parsed)

end Prisma

/-! ## Every front-end -/

/-- **Every relationship read is backed by a foreign key.** For every PostgreSQL text and
window size, every schema.rb text and every Prisma document: when the PostgreSQL reading creates
no table twice and stores every constraint under a name its table does not hold yet, no
schema.rb call drops a foreign key, and the relation fields of the Prisma document name their
foreign keys apart in each table, then in the schema each of the three front-ends reads, every
relationship has a table named after its referencing table holding a FOREIGN KEY constraint
whose first column, target table, first target column and actions are the relationship's. -/
theorem frontEnds_back_relationships (sqlText : String) (chunkSize : Nat)
    (railsText prismaText : String)
    (sql : Sql.AdditiveRun {} ((Sql.statementsRead sqlText chunkSize).flatMap Sql.fragmentsOf))
    (rails : Rails.KeepsForeignKeysRun {} (Rails.parseCalls railsText).1)
    (prisma : ∀ d errors, Prisma.parseDocument prismaText = .ok (d, errors) →
      (Prisma.foreignKeyNames d).Nodup) :
    (Sql.parsePostgres sqlText chunkSize).value.BacksRelationships ∧
      (Rails.parseSchemaRb railsText).value.BacksRelationships ∧
      (Prisma.parsePrisma prismaText).value.BacksRelationships :=
  ⟨(Sql.parsePostgres_relationshipsBacked sqlText chunkSize sql).backsRelationships
      (Sql.parsePostgres_keyed sqlText chunkSize),
    (Rails.parseSchemaRb_relationshipsBacked railsText rails).backsRelationships
      (Rails.parseSchemaRb_keyed railsText),
    (Prisma.parsePrisma_relationshipsBacked prismaText prisma).backsRelationships
      (Prisma.parsePrisma_keyed prismaText)⟩

/-- Three readings that each hold a relationship, a foreign key to a table's key, meet the
conditions. -/
theorem frontEnds_back_relationships_linked :
    let sqlText := "CREATE TABLE a (id int PRIMARY KEY);\nCREATE TABLE b (x int REFERENCES a(id));"
    let railsText := "ActiveRecord::Schema[7.0].define(version: 1) do\n  create_table \"as\" do |t|\n" ++
      "  end\n  create_table \"bs\" do |t|\n    t.bigint \"a_id\"\n  end\n" ++
      "  add_foreign_key \"bs\", \"as\"\nend\n"
    let prismaText := "model A \x7b\n  id Int @id\n  bs B[]\n\x7d\nmodel B \x7b\n  id Int @id\n" ++
      "  aId Int\n  a A @relation(fields: [aId], references: [id])\n\x7d\n"
    Sql.AdditiveRun {} ((Sql.statementsRead sqlText 1).flatMap Sql.fragmentsOf) ∧
      Rails.KeepsForeignKeysRun {} (Rails.parseCalls railsText).1 ∧
      (∀ d errors, Prisma.parseDocument prismaText = .ok (d, errors) →
        (Prisma.foreignKeyNames d).Nodup) ∧
      (Sql.parsePostgres sqlText 1).value.relationships.entries ≠ [] ∧
      (Rails.parseSchemaRb railsText).value.relationships.entries ≠ [] ∧
      (Prisma.parsePrisma prismaText).value.relationships.entries ≠ [] ∧
      (Sql.parsePostgres sqlText 1).value.BacksRelationships ∧
      (Rails.parseSchemaRb railsText).value.BacksRelationships ∧
      (Prisma.parsePrisma prismaText).value.BacksRelationships := by
  intro sqlText railsText prismaText
  -- the document is read without error, and its two foreign keys sit in different tables
  have names : (match Prisma.parseDocument prismaText with
      | .ok (d, _) => decide (Prisma.foreignKeyNames d).Nodup
      | .error _ => false) = true := by
    decide +kernel
  have prisma : ∀ d errors, Prisma.parseDocument prismaText = .ok (d, errors) →
      (Prisma.foreignKeyNames d).Nodup := by
    intro d errors parsed
    rw [parsed] at names
    exact of_decide_eq_true names
  -- each run condition is decided as the goal it stands in: a decided fact handed on as an
  -- argument would send the elaborator through the whole reading
  obtain ⟨sqlBacked, railsBacked, prismaBacked⟩ :=
    frontEnds_back_relationships sqlText 1 railsText prismaText (by decide +kernel)
      (by decide +kernel) prisma
  exact ⟨by decide +kernel, by decide +kernel, prisma, by decide +kernel, by decide +kernel,
    by decide +kernel, sqlBacked, railsBacked, prismaBacked⟩

end Schemata
