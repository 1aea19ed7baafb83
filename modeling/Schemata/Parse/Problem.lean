import Schemata.Schema.Basic

/-!
# Problems found while reading a schema

Reading a schema never fails as a whole: the front-ends return the best
schema they could build together with the problems they met. Only two kinds
are fatal, and they end the reading: an inconsistency of the chunk driver and
a statement that does not fit in the largest chunk window.

After every front-end the references are checked: a foreign key must point
at an existing table and at existing columns of it, and both tables of a
relationship must exist. Dangling references are reported, not removed.
-/

namespace Schemata

/-- A problem met while reading a schema. -/
inductive Problem where
  | unexpectedToken (message : String) (offset : Option Nat)
  | unsupported (message : String) (offset : Option Nat)
  | danglingReference (message : String)
  | invalidInput (message : String)
  | unexpectedCondition (message : String)
  | windowExhausted (line : Nat)
deriving Repr, DecidableEq, Inhabited

namespace Problem

def name : Problem → String
  | unexpectedToken .. => "UnexpectedTokenWarningError"
  | unsupported .. => "UnsupportedTokenError"
  | danglingReference _ => "DanglingReferenceError"
  | invalidInput _ => "InvalidInputError"
  | unexpectedCondition _ => "UnexpectedConditionError"
  | windowExhausted _ => "ChunkWindowExhaustedError"

def message : Problem → String
  | unexpectedToken m _ | unsupported m _ | danglingReference m | invalidInput m => m
  | unexpectedCondition m => "unexpected condition: " ++ m
  | windowExhausted line =>
    "statement starting at line " ++ toString line ++ " does not fit in the chunk window"

/-- The byte offset into the source, when known. -/
def location? : Problem → Option Nat
  | unexpectedToken _ o | unsupported _ o => o
  | _ => none

def isFatal : Problem → Bool
  | unexpectedCondition _ | windowExhausted _ => true
  | _ => false

end Problem

/-- A schema read as well as possible, with the problems met. -/
structure Reading where
  value : Schema := {}
  problems : List Problem := []
deriving Inhabited

/-- The first name of `names` that `ok` rejects. -/
def firstMissing (ok : String → Bool) (names : List String) : Option String := names.find? (!ok ·)

/-- Problems of one foreign key of a table. -/
def foreignKeyProblems (s : Schema) (table : Table) : Constraint → List Problem
  | .foreignKey name _ target targetColumns _ _ =>
    match s.tables.get? target with
    | none =>
      [.danglingReference ("foreign key \"" ++ name ++ "\" on \"" ++ table.name ++
        "\" references missing table \"" ++ target ++ "\"")]
    | some t =>
      match firstMissing t.columns.contains targetColumns with
      | some column =>
        [.danglingReference ("foreign key \"" ++ name ++ "\" on \"" ++ table.name ++
          "\" references missing column \"" ++ target ++ "\".\"" ++ column ++ "\"")]
      | none => []
  | _ => []

/-- Foreign keys and relationships that point at tables or columns the schema
does not have. -/
def validateReferences (s : Schema) : List Problem :=
  let keys := s.tables.values.flatMap fun t => t.constraints.values.flatMap (foreignKeyProblems s t)
  let rels := s.relationships.values.flatMap fun r =>
    [r.primaryTable, r.foreignTable].filterMap fun t =>
      if s.tables.contains t then none
      else some (.danglingReference ("relationship \"" ++ r.name ++ "\" references missing table \"" ++
        t ++ "\""))
  keys ++ rels

end Schemata
