import Mathlib
import Schemata.Prisma.Lower

/-!
# The cardinality of a Prisma relation

A relation field that carries `@relation(fields: ..., references: ...)` gives a foreign key
and a relationship, whose cardinality is read off the target model: from the first field of
the target whose type names the source model. The relationship is one-to-one when that field
is singular, or, when the target has no such field, when the single foreign-key column is
unique.

The intended reading is narrower. The back-relation of a field is the field of the target
that names the source model under the same relation name, and on a self-relation it is never
the field itself (`pairsWith`). The two readings agree whenever every field of the target
that names the source is paired with the foreign-key field: a single relation between two
distinct models, or several that share one name (`foreignKey_cardinality_of_paired`). They
differ on a self-relation, where the foreign-key field is itself the first field found
(`cardinality_self_relation`), and between two models joined by relations of different names.
-/

namespace Schemata

namespace Prisma

/-- The relation a field belongs to: the name its `@relation` gives, unlabelled or as
`name:`. -/
def Field.relationName (g : Field) : Option String :=
  (g.attribute? "relation").bind fun r => (r.strArg? none).orElse fun _ => r.strArg? (some "name")

/-- `g`, a field of `target`, is the back-relation paired with the field `f` of `m`: it names
`m` under the relation name of `f` and, on a self-relation, is not `f` itself. -/
def pairsWith (target m : Model) (f g : Field) : Bool :=
  g.type == m.name && g.relationName == f.relationName &&
    !(target.name == m.name && g.name == f.name)

/-- The single foreign-key column is unique in the table of `m`, as the schema stands. -/
def uniqueKey (s : Schema) (m : Model) (columns : List String) : Bool :=
  match columns with
  | [single] => ((s.tables.get? m.tableName).bind (·.columns.get? single)).any (·.unique)
  | _ => false

/-- The cardinality the back-relation paired with `f` gives: one-to-one when that field is
singular or, when there is none, when the single foreign-key column is unique. -/
def pairedCardinality (s : Schema) (target m : Model) (f : Field) (columns : List String) :
    Cardinality :=
  match target.fields.find? (pairsWith target m f) with
  | some g => if g.arity = .list then .oneToMany else .oneToOne
  | none => if uniqueKey s m columns then .oneToOne else .oneToMany

section Pairing

variable {s : Schema} {target m : Model} {f : Field} {columns : List String}

/-- The cardinality as computed, its unique-key test named. -/
lemma cardinality_eq :
    cardinality s target m columns =
      match target.fields.find? (·.type == m.name) with
      | some g => if g.arity != .list then .oneToOne else .oneToMany
      | none => if uniqueKey s m columns then .oneToOne else .oneToMany := rfl

/-- When every field of the target that names the source is paired with `f`, the first field
naming the source is the first paired one. -/
lemma find?_names_source (paired : ∀ g ∈ target.fields, g.type = m.name → pairsWith target m f g) :
    target.fields.find? (·.type == m.name) = target.fields.find? (pairsWith target m f) :=
  List.find?_congr fun g member => by
    by_cases named : g.type = m.name
    · simp [named, paired g member named]
    · have unpaired : pairsWith target m f g = false := by simp [pairsWith, named]
      simp [named, unpaired]

/-- Under the same condition the computed cardinality is the paired one. -/
lemma cardinality_of_paired (paired : ∀ g ∈ target.fields, g.type = m.name → pairsWith target m f g) :
    cardinality s target m columns = pairedCardinality s target m f columns := by
  rw [cardinality_eq, find?_names_source paired, pairedCardinality]
  cases target.fields.find? (pairsWith target m f) with
  | none => rfl
  | some g =>
    dsimp only
    cases g.arity <;> rfl

end Pairing

/-- An entry inserted under a name is found under it. -/
lemma get?_insert_self {α : Type} (entries : List (String × α)) (k : String) (v : α) :
    (NameMap.insert ⟨entries⟩ k v).get? k = some v := by
  induction entries with
  | nil => simp [NameMap.insert, NameMap.insertEntries, NameMap.get?]
  | cons e rest ih =>
    obtain ⟨k', v'⟩ := e
    by_cases same : k' = k
    · subst same
      simp [NameMap.insert, NameMap.insertEntries, NameMap.get?]
    · -- the entry in front is another name: insertion passes it, and so does the lookup
      have passed : (k' == k) = false := beq_false_of_ne same
      have other : (k == k') = false := beq_false_of_ne (Ne.symm same)
      simp only [NameMap.insert, NameMap.get?] at ih
      simp only [NameMap.insert, NameMap.get?, NameMap.insertEntries, passed, List.lookup, other, ih,
        Bool.false_eq_true, if_false]

/-- **The relationship of a foreign key.** A relation field `f` of `m` whose `fields:` and
`references:` name columns of `m` and of its target gives the relationship from the target's
first referenced column to the first foreign-key column, with the actions written on it. When
every field of the target that names `m` is paired with `f`, its cardinality is the one the
back-relation paired with `f` gives. -/
theorem foreignKey_cardinality_of_paired {d : Document} {m target : Model} {f : Field}
    {r : Attribute} {s : Schema} {column targetColumn : String}
    {columns targetColumns : List String}
    (declared : r.identList (some "fields") ≠ [])
    (found : d.model? f.type = some target)
    (keyed : columnNames m (r.identList (some "fields")) = some (column :: columns))
    (referenced :
      columnNames target (r.identList (some "references")) = some (targetColumn :: targetColumns))
    (paired : ∀ g ∈ target.fields, g.type = m.name → pairsWith target m f g) :
    (foreignKey d m f r s).1.relationships.get?
        (relationshipName target.tableName targetColumn m.tableName column) =
      some { Relationship.new target.tableName targetColumn m.tableName column with
        cardinality := pairedCardinality s target m f (column :: columns),
        onUpdate := action (r.arg? (some "onUpdate")),
        onDelete := action (r.arg? (some "onDelete")) } := by
  have present : (r.identList (some "fields")).isEmpty = false := List.isEmpty_eq_false_iff.mpr declared
  rw [← cardinality_of_paired paired]
  simp only [foreignKey, present, found, keyed, referenced, Bool.false_eq_true, if_false]
  -- the constraint goes to the table only when the table is stored; the relationship either way
  split <;> exact get?_insert_self _ _ _

/-- A post's relation to its author, keyed by `authorId`. -/
def authorRelation : Attribute :=
  ⟨"relation", [.mk (some "fields") (.array [.ident "authorId"]),
    .mk (some "references") (.array [.ident "id"])]⟩

def authorField : Field :=
  { name := "author", type := "User", arity := .required, attributes := [authorRelation], doc := none }

def postModel : Model :=
  { name := "Post", attributes := [], doc := none,
    fields := [{ name := "id", type := "Int", arity := .required, attributes := [⟨"id", []⟩], doc := none },
      { name := "authorId", type := "Int", arity := .required, attributes := [], doc := none },
      authorField] }

/-- A user with a list of posts: the back-relation of `author`. -/
def userModel : Model :=
  { name := "User", attributes := [], doc := none,
    fields := [{ name := "id", type := "Int", arity := .required, attributes := [⟨"id", []⟩], doc := none },
      { name := "posts", type := "Post", arity := .list, attributes := [], doc := none }] }

theorem foreignKey_cardinality_posts :
    authorRelation.identList (some "fields") ≠ [] ∧
      ({ models := [userModel, postModel] } : Document).model? authorField.type = some userModel ∧
      columnNames postModel (authorRelation.identList (some "fields")) = some ["authorId"] ∧
      columnNames userModel (authorRelation.identList (some "references")) = some ["id"] ∧
      (∀ g ∈ userModel.fields, g.type = postModel.name → pairsWith userModel postModel authorField g) ∧
      (foreignKey { models := [userModel, postModel] } postModel authorField authorRelation
          Schema.empty).1.relationships.get?
          (relationshipName userModel.tableName "id" postModel.tableName "authorId") =
        some { Relationship.new userModel.tableName "id" postModel.tableName "authorId" with
          cardinality := pairedCardinality Schema.empty userModel postModel authorField ["authorId"],
          onUpdate := action (authorRelation.arg? (some "onUpdate")),
          onDelete := action (authorRelation.arg? (some "onDelete")) } := by
  have declared : authorRelation.identList (some "fields") ≠ [] := by decide
  have found : ({ models := [userModel, postModel] } : Document).model? authorField.type =
      some userModel := rfl
  have keyed : columnNames postModel (authorRelation.identList (some "fields")) = some ["authorId"] := by
    decide
  have referenced : columnNames userModel (authorRelation.identList (some "references")) =
      some ["id"] := by
    decide
  have paired : ∀ g ∈ userModel.fields, g.type = postModel.name →
      pairsWith userModel postModel authorField g := by
    decide
  exact ⟨declared, found, keyed, referenced, paired,
    foreignKey_cardinality_of_paired declared found keyed referenced paired⟩

/-- A manager, in a self-relation named `mgr` whose other side is the list of reports. -/
def managerField : Field :=
  { name := "manager", type := "Employee", arity := .optional, doc := none,
    attributes := [⟨"relation", [.mk none (.str "mgr"), .mk (some "fields") (.array [.ident "managerId"]),
      .mk (some "references") (.array [.ident "id"])]⟩] }

def employeeModel : Model :=
  { name := "Employee", attributes := [], doc := none,
    fields := [{ name := "id", type := "Int", arity := .required, attributes := [⟨"id", []⟩], doc := none },
      { name := "managerId", type := "Int", arity := .optional, attributes := [], doc := none },
      managerField,
      { name := "reports", type := "Employee", arity := .list, doc := none,
        attributes := [⟨"relation", [.mk none (.str "mgr")]⟩] }] }

/-- On a self-relation the foreign-key field is the first field naming the model, so the
manager's relationship is one-to-one although its paired back-relation is a list. -/
theorem cardinality_self_relation :
    cardinality Schema.empty employeeModel employeeModel ["managerId"] = .oneToOne ∧
      pairedCardinality Schema.empty employeeModel employeeModel managerField ["managerId"] =
        .oneToMany := by
  decide

end Prisma

end Schemata
