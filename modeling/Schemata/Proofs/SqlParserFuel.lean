import Mathlib
import Schemata.Proofs.Fuel
import Schemata.Proofs.SqlParserRuns

/-!
# The SQL parser's loops run to completion

Every loop of the statement parser is started with the budget `budget`, one
more than the number of tokens. This module proves that the budget never
binds (`fuelSuffices`): each loop gives the same run under any more fuel.

The argument is relational. `AgreeWithin env n p q` says that `p` and `q` run
alike from every position with fewer than `n` tokens left; the round of a loop
with `f + 1` fuel and with `f + k + 1` fuel must agree within `f + 1` given
that the later rounds agree within `f` (`settles_of_round`). A round agrees by
following the loop's body: the parsers it calls move forward, so the
agreement carries across them, and the round pays one token to hand on to the
next, either with a step past the token at hand (`AgreeWithinAt.advance`) or
through a parser that reads it (`AgreeWithinAt.advancing_bind`). The error
recovery of the element loops rests on the second: a column constraint
always reads a token, so the loop over constraints never spins.
-/

namespace Schemata

namespace Sql.Parser

/-! ## Parsers that agree near the end -/

/-- In `env`, `p` and `q` give the same run from every position with fewer than
`n` tokens left. -/
def AgreeWithin {γ : Type} (env : ParserEnv) (n : Nat) (p q : Parser γ) : Prop :=
  ∀ pos, env.tokens.size - pos + 1 ≤ n → p env pos = q env pos

/-- The same, from the positions whose token is `t`. -/
def AgreeWithinAt {γ : Type} (env : ParserEnv) (n : Nat) (t : Option Token) (p q : Parser γ) :
    Prop :=
  ∀ pos, env.tokens.size - pos + 1 ≤ n → (env.tokens[pos]?).map (·.token) = t →
    p env pos = q env pos

namespace AgreeWithin

variable {α γ : Type} {env : ParserEnv} {n : Nat}

lemma refl (p : Parser γ) : AgreeWithin env n p p := fun _ _ => rfl

lemma bind {x : Parser α} {g g' : α → Parser γ} (hx : Forward x)
    (h : ∀ a, AgreeWithin env n (g a) (g' a)) : AgreeWithin env n (x >>= g) (x >>= g') := by
  intro pos within
  rw [run_bind, run_bind]
  cases hr : x env pos with
  | error e => rfl
  | ok r =>
    have := hx env pos r.1 r.2 hr
    exact h r.1 r.2 (by omega)

lemma current {g g' : Option Token → Parser γ} (h : ∀ t, AgreeWithinAt env n t (g t) (g' t)) :
    AgreeWithin env n (Parser.current >>= g) (Parser.current >>= g') := fun pos within =>
  h _ pos within rfl

lemma pure_bind {a : α} {g g' : α → Parser γ} (h : AgreeWithin env n (g a) (g' a)) :
    AgreeWithin env n (pure a >>= g) (pure a >>= g') := h

lemma ite {c : Prop} [Decidable c] {p p' q q' : Parser γ} (hp : AgreeWithin env n p p')
    (hq : AgreeWithin env n q q') : AgreeWithin env n (if c then p else q) (if c then p' else q') := by
  split
  · exact hp
  · exact hq

lemma mono {m : Nat} {p q : Parser γ} (h : AgreeWithin env n p q) (le : m ≤ n) :
    AgreeWithin env m p q := fun pos within => h pos (by omega)

lemma fail_bind (expected : String) (g g' : α → Parser γ) :
    AgreeWithin env n (fail expected >>= g) (fail expected >>= g') := by
  intro pos _
  rw [run_bind, run_bind]
  cases h : (fail expected : Parser α) env pos with
  | error e => rfl
  | ok r => exact absurd h (fail_ne_ok expected env pos r)

end AgreeWithin

namespace AgreeWithinAt

variable {α γ : Type} {env : ParserEnv} {n : Nat} {t : Option Token}

lemma of {p q : Parser γ} (h : AgreeWithin env n p q) : AgreeWithinAt env n t p q :=
  fun pos within _ => h pos within

lemma refl (p : Parser γ) : AgreeWithinAt env n t p p := fun _ _ _ => rfl

lemma pure_bind {a : α} {g g' : α → Parser γ} (h : AgreeWithinAt env n t (g a) (g' a)) :
    AgreeWithinAt env n t (pure a >>= g) (pure a >>= g') := h

lemma get_bind {g g' : Nat → Parser γ} (h : ∀ p, AgreeWithinAt env n t (g p) (g' p)) :
    AgreeWithinAt env n t (get >>= g) (get >>= g') := fun pos within ht => h pos pos within ht

lemma fail_bind (expected : String) (g g' : α → Parser γ) :
    AgreeWithinAt env n t (fail expected >>= g) (fail expected >>= g') :=
  .of (.fail_bind expected g g')

/-- Past a token, one token fewer is left. -/
lemma advance {g g' : Unit → Parser γ} {tok : Token} (h : ∀ u, AgreeWithin env n (g u) (g' u)) :
    AgreeWithinAt env (n + 1) (some tok) (Parser.advance >>= g) (Parser.advance >>= g') := by
  intro pos within ht
  have inside := lt_size_of_current env pos ht
  rw [advance_bind env pos inside, advance_bind env pos inside]
  exact h () (pos + 1) (by omega)

/-- A parser that reads the token at hand pays for the round. -/
lemma advancing_bind {x : Parser α} {g g' : α → Parser γ} {tok : Token} (hx : AdvancesAt (some tok) x)
    (h : ∀ a, AgreeWithin env n (g a) (g' a)) :
    AgreeWithinAt env (n + 1) (some tok) (x >>= g) (x >>= g') := by
  intro pos within ht
  have inside := lt_size_of_current env pos ht
  rw [run_bind, run_bind]
  cases hr : x env pos with
  | error e => rfl
  | ok r =>
    have := hx env pos r.1 r.2 ht hr
    exact h r.1 r.2 (by omega)

end AgreeWithinAt

/-- A loop settles within one round per token left once each round with more
fuel runs as with less, given that the later rounds do. -/
theorem settles_of_round {β γ : Type} {L : Nat → β → Parser γ} (env : ParserEnv)
    (round : ∀ f k b, (∀ b', AgreeWithin env f (L (f + k) b') (L f b')) →
      AgreeWithin env (f + 1) (L (f + k + 1) b) (L (f + 1) b)) :
    SettlesWithin (fun x : β × Nat => env.tokens.size - x.2 + 1) (fun f x => L f x.1 env x.2) := by
  refine SettlesWithin.of_round (fun x ended => by omega) (fun f ⟨b, pos⟩ enough later k => ?_)
  rw [Nat.add_right_comm]
  exact round f k b (fun b' pos' within => later (b', pos') within k) pos enough

theorem skipElementLoop_settles (env : ParserEnv) :
    SettlesWithin (fun x : Nat × Nat => env.tokens.size - x.2 + 1)
      (fun f x => skipElementLoop f x.1 env x.2) := by
  refine settles_of_round env fun f k depth later => ?_
  simp only [skipElementLoop]
  refine .current fun tok => ?_
  split
  all_goals first
    | exact .refl _
    | exact .advance fun _ => later _
    | (split
       · exact .refl _
       · exact .advance fun _ => later _)

theorem namePartsLoop_settles (expected : String) (env : ParserEnv) :
    SettlesWithin (fun x : List String × Nat => env.tokens.size - x.2 + 1)
      (fun f x => namePartsLoop expected f x.1 env x.2) := by
  refine settles_of_round env fun f k acc later => ?_
  simp only [namePartsLoop]
  refine .current fun tok => ?_
  split
  · rename_i dot
    obtain rfl : tok = some .dot := eq_of_beq dot
    exact .advance fun _ => .bind (expectIdent_forward expected) fun part => later _
  · exact .refl _

theorem columnListLoop_settles (env : ParserEnv) :
    SettlesWithin (fun x : List String × Nat => env.tokens.size - x.2 + 1)
      (fun f x => columnListLoop f x.1 env x.2) := by
  refine settles_of_round env fun f k acc later => ?_
  simp only [columnListLoop]
  refine .bind (expectIdent_forward _) fun c => .current fun tok => ?_
  split
  · exact .advance fun _ => later _
  · exact .refl _
  · exact .refl _

theorem typeNameLoop_settles (env : ParserEnv) :
    SettlesWithin (fun x : (Nat × String) × Nat => env.tokens.size - x.2 + 1)
      (fun f x => typeNameLoop f x.1.1 x.1.2 env x.2) := by
  refine settles_of_round (L := fun f (x : Nat × String) => typeNameLoop f x.1 x.2) env
    fun f k ⟨depth, text⟩ later => ?_
  simp only [typeNameLoop]
  refine .current fun tok => ?_
  split
  · exact .refl _
  · split
    all_goals try split
    -- each part is taken by a step past its token; only `none` (the end) fails
    all_goals first
      | exact .fail_bind _ _ _
      | refine .pure_bind ?_
    all_goals dsimp only
    all_goals first
      | exact .refl _
      | exact .advance fun _ => later (_, _)

theorem defaultLoop_settles (start : Nat) (env : ParserEnv) :
    SettlesWithin (fun x : Nat × Nat => env.tokens.size - x.2 + 1)
      (fun f x => defaultLoop start f x.1 env x.2) := by
  refine settles_of_round env fun f k depth later => ?_
  simp only [defaultLoop]
  refine .current fun tok => .get_bind fun pos => ?_
  split
  · exact .refl _
  · exact .advance fun _ => later _
  all_goals split
  all_goals first
    | exact .refl _
    | exact .advance fun _ => later _
    | (obtain ⟨t, rfl⟩ := Option.ne_none_iff_exists'.mp ‹_›
       exact .advance fun _ => later _)

theorem parenLoop_settles (openAt : Nat) (env : ParserEnv) :
    SettlesWithin (fun x : Nat × Nat => env.tokens.size - x.2 + 1)
      (fun f x => parenLoop openAt f x.1 env x.2) := by
  refine settles_of_round env fun f k depth later pos within => ?_
  simp only [parenLoop, run_bind, read_run, get_run, Except.bind]
  cases hs : env.tokens[pos]? with
  | none => rfl
  | some s =>
    have inside := lt_size_of_token env pos hs
    have step : ∀ d, (advance >>= fun _ => parenLoop openAt (f + k) d) env pos =
        (advance >>= fun _ => parenLoop openAt f d) env pos := fun d => by
      rw [advance_bind env pos inside, advance_bind env pos inside]
      exact later d (pos + 1) (by omega)
    simp only [ite_run]
    split
    · exact step _
    · split
      · split
        · rfl
        · exact step _
      · exact step _

theorem referenceLoop_settles (env : ParserEnv) :
    SettlesWithin (fun x : ForeignKeyRef × Nat => env.tokens.size - x.2 + 1)
      (fun f x => referenceLoop f x.1 env x.2) := by
  refine settles_of_round env fun f k r later => ?_
  simp only [referenceLoop]
  refine .current fun tok => ?_
  split
  · refine .advance fun _ => .current fun tok => .of ?_
    split
    all_goals
      refine .bind ?_ fun isUpdate => .bind advance_forward fun _ =>
        .bind referenceAction_forward fun action => later _
      first | exact .pure' _ | exact fail_forward _
  · split
    · rename_i words
      cases tok with
      | none => simp [isWord] at words
      | some tok => exact .advance fun _ => .bind advance_forward fun _ => later _
    · exact .refl _

theorem columnConstraintsLoop_settles (env : ParserEnv) :
    SettlesWithin (fun x : List ColumnConstraint × Nat => env.tokens.size - x.2 + 1)
      (fun f x => columnConstraintsLoop f x.1 env x.2) := by
  refine settles_of_round env fun f k acc later => ?_
  simp only [columnConstraintsLoop]
  refine .current fun tok => ?_
  split
  all_goals first
    | exact .refl _
    | (obtain ⟨t, rfl⟩ := Option.ne_none_iff_exists'.mp ‹_›
       exact .advancing_bind (columnConstraint_advances _) fun c => later _)

theorem tableElementsLoop_settles (env : ParserEnv) :
    SettlesWithin (fun x : List TableElement × Nat => env.tokens.size - x.2 + 1)
      (fun f x => tableElementsLoop f x.1 env x.2) := by
  refine settles_of_round env fun f k acc later => ?_
  simp only [tableElementsLoop]
  refine .current fun tok => .of (.ite
    (.bind tableConstraint_forward fun c => .pure_bind (.current fun t => ?_))
    (.ite (.bind skipElement_forward fun _ => .pure_bind (.current fun t => ?_))
      (.bind columnDef_forward fun c => .pure_bind (.current fun t => ?_))))
  -- whatever the element, the round ends at its separator
  all_goals
    split
    · exact .advance fun _ => later _
    · exact .refl _
    · exact .refl _

theorem indexColumnsLoop_settles (env : ParserEnv) :
    SettlesWithin (fun x : List String × Nat => env.tokens.size - x.2 + 1)
      (fun f x => indexColumnsLoop f x.1 env x.2) := by
  refine settles_of_round env fun f k acc later => ?_
  simp only [indexColumnsLoop]
  refine .current fun tok => .of (.bind peekNext_forward fun next =>
    .bind skipElement_forward fun _ => .current fun t => ?_)
  split
  · exact .advance fun _ => later _
  · exact .refl _
  · exact .refl _

theorem enumValuesLoop_settles (env : ParserEnv) :
    SettlesWithin (fun x : List String × Nat => env.tokens.size - x.2 + 1)
      (fun f x => enumValuesLoop f x.1 env x.2) := by
  refine settles_of_round env fun f k acc later => ?_
  simp only [enumValuesLoop]
  refine .current fun tok => ?_
  split
  · -- the label pays for the round, the separator after it is read on credit
    refine .advance fun _ => .pure_bind (.current fun t => ?_)
    split
    · exact .of (.bind advance_forward fun _ => later _)
    · exact .refl _
    · exact .refl _
  · exact .fail_bind _ _ _

theorem createLeadLoop_settles (env : ParserEnv) :
    SettlesWithin (fun x : Bool × Nat => env.tokens.size - x.2 + 1)
      (fun f x => createLeadLoop f x.1 env x.2) := by
  refine settles_of_round env fun f k unique later => ?_
  simp only [createLeadLoop]
  refine .current fun tok => ?_
  split
  · rename_i uniq
    cases tok with
    | none => simp [isKeyword] at uniq
    | some tok => exact .advance fun _ => later _
  · split
    · rename_i words
      cases tok with
      | none => simp [isWord] at words
      | some tok => exact .advance fun _ => later _
    · exact .refl _

theorem alterLoop_settles (env : ParserEnv) :
    SettlesWithin (fun x : List AlterCommand × Nat => env.tokens.size - x.2 + 1)
      (fun f x => alterLoop f x.1 env x.2) := by
  refine settles_of_round env fun f k acc later => ?_
  simp only [alterLoop]
  refine .bind alterCommand_forward fun command => .bind skipElement_forward fun _ =>
    .current fun t => ?_
  split
  · exact .advance fun _ => later _
  · exact .refl _
  · exact .refl _

/-! ## The fuel the parser passes -/

/-- The budget the statement parser gives a loop, one more than the number of
tokens, never binds: from every position and every start of the loop, more
fuel gives the same run. -/
def BudgetSuffices {β γ : Type} (env : ParserEnv) (L : Nat → β → Parser γ) : Prop :=
  ∀ b pos k, L (env.tokens.size + 1 + k) b env pos = L (env.tokens.size + 1) b env pos

lemma BudgetSuffices.of_settles {β γ : Type} {env : ParserEnv} {L : Nat → β → Parser γ}
    (h : SettlesWithin (fun x : β × Nat => env.tokens.size - x.2 + 1) (fun f x => L f x.1 env x.2)) :
    BudgetSuffices env L := fun b pos k => h (b, pos) _ (by dsimp only; omega) k

/-- Every loop of the statement parser runs on a budget that never binds. -/
structure FuelSuffices (env : ParserEnv) : Prop where
  nameParts : ∀ expected, BudgetSuffices env (namePartsLoop expected)
  skipElement : BudgetSuffices env skipElementLoop
  typeName : BudgetSuffices env fun f (x : Nat × String) => typeNameLoop f x.1 x.2
  default : ∀ start, BudgetSuffices env (defaultLoop start)
  paren : ∀ openAt, BudgetSuffices env (parenLoop openAt)
  columnList : BudgetSuffices env columnListLoop
  reference : BudgetSuffices env referenceLoop
  columnConstraints : BudgetSuffices env columnConstraintsLoop
  tableElements : BudgetSuffices env tableElementsLoop
  indexColumns : BudgetSuffices env indexColumnsLoop
  enumValues : BudgetSuffices env enumValuesLoop
  createLead : BudgetSuffices env createLeadLoop
  alter : BudgetSuffices env alterLoop

theorem fuelSuffices (env : ParserEnv) : FuelSuffices env where
  nameParts expected := .of_settles (namePartsLoop_settles expected env)
  skipElement := .of_settles (skipElementLoop_settles env)
  typeName := .of_settles (typeNameLoop_settles env)
  default start := .of_settles (defaultLoop_settles start env)
  paren openAt := .of_settles (parenLoop_settles openAt env)
  columnList := .of_settles (columnListLoop_settles env)
  reference := .of_settles (referenceLoop_settles env)
  columnConstraints := .of_settles (columnConstraintsLoop_settles env)
  tableElements := .of_settles (tableElementsLoop_settles env)
  indexColumns := .of_settles (indexColumnsLoop_settles env)
  enumValues := .of_settles (enumValuesLoop_settles env)
  createLead := .of_settles (createLeadLoop_settles env)
  alter := .of_settles (alterLoop_settles env)

end Sql.Parser

end Schemata
