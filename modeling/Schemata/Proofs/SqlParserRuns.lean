import Mathlib
import Schemata.Sql.Parser

/-!
# How far the SQL parsers move

A parser of SQL statements runs from a token position to a later one. This
module proves, for every parser the statement loops call, that it never moves
back (`Forward`), and for the parsers a loop relies on to pay for its round,
that they read at least one token whenever they succeed (`Advances`,
`AdvancesAt`): a column constraint always does, an element skipped at a
token other than a separator does.

Both facts are stated over all token arrays and positions and proved by
following each parser's own `do` block: a bind is forward when both sides
are, a branch when each arm is. The failing parser `fail` is forward
vacuously, as it never succeeds.
-/

namespace Schemata

namespace Sql.Parser

/-! ## Runs of a parser -/

section Runs

variable {α β : Type} (env : ParserEnv) (pos : Nat)

lemma run_bind (x : Parser α) (g : α → Parser β) :
    (x >>= g) env pos = (x env pos).bind fun r => g r.1 env r.2 := rfl

@[simp] lemma read_run : (read : Parser ParserEnv) env pos = .ok (env, pos) := rfl

@[simp] lemma get_run : (get : Parser Nat) env pos = .ok (pos, pos) := rfl

@[simp] lemma pure_run (a : α) : (pure a : Parser α) env pos = .ok (a, pos) := rfl

@[simp] lemma throw_run (e : StatementError) : (throw e : Parser α) env pos = .error e := rfl

lemma ite_run (c : Prop) [Decidable c] (p q : Parser α) :
    (if c then p else q) env pos = if c then p env pos else q env pos := by
  split <;> rfl

lemma current_bind (g : Option Token → Parser β) :
    (current >>= g) env pos = g ((env.tokens[pos]?).map (·.token)) env pos := rfl

lemma advance_bind' (g : Unit → Parser β) :
    (advance >>= g) env pos = g () env (if pos < env.tokens.size then pos + 1 else pos) := rfl

lemma advance_bind {g : Unit → Parser β} (inside : pos < env.tokens.size) :
    (advance >>= g) env pos = g () env (pos + 1) := by
  rw [advance_bind', if_pos inside]

lemma lt_size_of_token {s : Spanned} (h : env.tokens[pos]? = some s) : pos < env.tokens.size :=
  (Array.getElem?_eq_some_iff.mp h).1

lemma lt_size_of_current {t : Token} (h : (env.tokens[pos]?).map (·.token) = some t) :
    pos < env.tokens.size := by
  obtain ⟨s, hs, -⟩ := Option.map_eq_some_iff.mp h
  exact lt_size_of_token env pos hs

end Runs

/-! ## Parsers that move forward -/

/-- A parser that never moves back. -/
def Forward {α : Type} (p : Parser α) : Prop :=
  ∀ env pos a pos', p env pos = .ok (a, pos') → pos ≤ pos'

/-- A parser that reads at least one token whenever it succeeds from a
position holding token `t` (`none` past the last token). -/
def AdvancesAt {α : Type} (t : Option Token) (p : Parser α) : Prop :=
  ∀ env pos a pos', (env.tokens[pos]?).map (·.token) = t → p env pos = .ok (a, pos') →
    pos < pos'

/-- A parser that reads at least one token whenever it succeeds. -/
def Advances {α : Type} (p : Parser α) : Prop := ∀ t, AdvancesAt t p

namespace Forward

variable {α β : Type}

lemma pure' (a : α) : Forward (pure a : Parser α) := by
  intro env pos b pos' h
  cases h
  exact Nat.le_refl pos

lemma bind {x : Parser α} {g : α → Parser β} (hx : Forward x) (hg : ∀ a, Forward (g a)) :
    Forward (x >>= g) := by
  intro env pos b pos'' h
  rw [run_bind] at h
  cases hr : x env pos with
  | error e => rw [hr] at h; cases h
  | ok r =>
    rw [hr] at h
    exact Nat.le_trans (hx env pos r.1 r.2 hr) (hg r.1 env r.2 b pos'' h)

lemma ite {c : Prop} [Decidable c] {p q : Parser α} (hp : Forward p) (hq : Forward q) :
    Forward (if c then p else q) := by
  split
  · exact hp
  · exact hq

lemma read : Forward (read : Parser ParserEnv) := by
  intro env pos a pos' h
  cases h
  exact Nat.le_refl pos

lemma get : Forward (get : Parser Nat) := by
  intro env pos a pos' h
  cases h
  exact Nat.le_refl pos

lemma throw (e : StatementError) : Forward (throw e : Parser α) := by
  intro env pos a pos' h
  cases h

end Forward

namespace AdvancesAt

variable {α β : Type} {t : Option Token}

lemma bind_left {x : Parser α} {g : α → Parser β} (hx : AdvancesAt t x)
    (hg : ∀ a, Forward (g a)) : AdvancesAt t (x >>= g) := by
  intro env pos b pos'' ht h
  rw [run_bind] at h
  cases hr : x env pos with
  | error e => rw [hr] at h; cases h
  | ok r =>
    rw [hr] at h
    exact Nat.lt_of_lt_of_le (hx env pos r.1 r.2 ht hr) (hg r.1 env r.2 b pos'' h)

lemma ite {c : Prop} [Decidable c] {p q : Parser α} (hp : AdvancesAt t p)
    (hq : AdvancesAt t q) : AdvancesAt t (if c then p else q) := by
  split
  · exact hp
  · exact hq

lemma throw (e : StatementError) : AdvancesAt t (throw e : Parser α) := by
  intro env pos a pos' _ h
  cases h

lemma bind_right {x : Parser α} {g : α → Parser β} (hx : Forward x) (hg : ∀ a, Advances (g a)) :
    Advances (x >>= g) := by
  intro t env pos b pos'' ht h
  rw [run_bind] at h
  cases hr : x env pos with
  | error e => rw [hr] at h; cases h
  | ok r =>
    rw [hr] at h
    exact Nat.lt_of_le_of_lt (hx env pos r.1 r.2 hr) (hg r.1 _ env r.2 b pos'' rfl h)

lemma current {g : Option Token → Parser β} (h : ∀ t, AdvancesAt t (g t)) :
    Advances (Parser.current >>= g) := by
  intro t env pos b pos' ht hrun
  rw [Parser.current_bind] at hrun
  exact h _ env pos b pos' rfl hrun

lemma current_bind {g : Option Token → Parser β} (h : AdvancesAt t (g t)) :
    AdvancesAt t (Parser.current >>= g) := by
  intro env pos b pos' ht hrun
  rw [Parser.current_bind, ht] at hrun
  exact h env pos b pos' ht hrun

end AdvancesAt

lemma Advances.forward {α : Type} {p : Parser α} (h : Advances p) : Forward p :=
  fun env pos a pos' hrun => Nat.le_of_lt (h _ env pos a pos' rfl hrun)

theorem current_forward : Forward current := by
  intro env pos a pos' h
  cases h
  exact Nat.le_refl pos

theorem peekNext_forward : Forward peekNext := by
  intro env pos a pos' h
  cases h
  exact Nat.le_refl pos

theorem budget_forward : Forward budget := by
  intro env pos a pos' h
  cases h
  exact Nat.le_refl pos

theorem advance_forward : Forward advance := by
  intro env pos a pos' h
  cases h
  dsimp only
  split <;> omega

theorem unexpected_forward (expected : String) : Forward (unexpected expected) :=
  .bind .read fun env => .bind .get fun pos => by
    split <;> exact .pure' _

theorem fail_forward {α : Type} (expected : String) : Forward (fail expected : Parser α) :=
  .bind (unexpected_forward expected) fun e => .throw e

lemma fail_ne_ok {α : Type} (expected : String) (env : ParserEnv) (pos : Nat) (r : α × Nat) :
    (fail expected : Parser α) env pos ≠ .ok r := by
  simp only [fail, unexpected, run_bind, read_run, get_run, Except.bind]
  split <;> simp

lemma fail_advancesAt {α : Type} (t : Option Token) (expected : String) :
    AdvancesAt t (fail expected : Parser α) :=
  fun env pos a pos' _ h => absurd h (fail_ne_ok expected env pos (a, pos'))

/-- Reading a token moves past it. -/
lemma advance_then {β : Type} {g : Unit → Parser β} (t : Token) (hg : ∀ u, Forward (g u)) :
    AdvancesAt (some t) (advance >>= g) := by
  intro env pos b pos' ht h
  obtain ⟨s, hs, -⟩ := Option.map_eq_some_iff.mp ht
  rw [advance_bind env pos (lt_size_of_token env pos hs)] at h
  exact hg () env (pos + 1) b pos' h

/-! ## The parsers of statements -/

theorem atKeyword_forward (k : Keyword) : Forward (atKeyword k) :=
  .bind current_forward fun _ => .pure' _

theorem atWord_forward (w : String) : Forward (atWord w) :=
  .bind current_forward fun _ => .pure' _

theorem expect_forward (t : Token) (expected : String) : Forward (expect t expected) :=
  .bind current_forward fun _ => .ite advance_forward (fail_forward expected)

theorem expectIdent_forward (expected : String) : Forward (expectIdent expected) :=
  .bind current_forward fun _ => by
    split
    · exact .bind advance_forward fun _ => .pure' _
    · exact fail_forward expected

theorem namePartsLoop_forward (expected : String) :
    ∀ f acc, Forward (namePartsLoop expected f acc)
  | 0, _ => .pure' _
  | f + 1, _ => .bind current_forward fun _ => .ite
      (.bind advance_forward fun _ => .bind (expectIdent_forward expected) fun _ =>
        namePartsLoop_forward expected f _)
      (.pure' _)

theorem nameParts_forward (expected : String) : Forward (nameParts expected) :=
  .bind (expectIdent_forward expected) fun _ => .bind budget_forward fun _ =>
    namePartsLoop_forward expected _ _

theorem qualifiedName_forward (expected : String) : Forward (qualifiedName expected) :=
  .bind (nameParts_forward expected) fun _ => .pure' _

theorem skipIfNotExists_forward : Forward skipIfNotExists :=
  .bind (atKeyword_forward _) fun _ => .ite
    (.bind advance_forward fun _ => .bind (atKeyword_forward _) fun _ =>
      .ite (.bind advance_forward fun _ => .bind (atKeyword_forward _) fun _ =>
          .ite advance_forward (.pure' _))
        (.bind (atKeyword_forward _) fun _ => .ite advance_forward (.pure' _)))
    (.pure' _)

theorem skipElementLoop_forward : ∀ f depth, Forward (skipElementLoop f depth)
  | 0, _ => .pure' _
  | f + 1, depth => .bind current_forward fun tok => by
    have next : ∀ d, Forward (advance >>= fun _ => skipElementLoop f d) := fun d =>
      .bind advance_forward fun _ => skipElementLoop_forward f d
    split
    · exact .pure' _
    · exact next _
    · exact .ite (.pure' _) (next _)
    · exact .ite (.pure' _) (next _)
    · exact next _

theorem skipElement_forward : Forward skipElement :=
  .bind budget_forward fun _ => skipElementLoop_forward _ _

theorem skipNullsDistinct_forward : Forward skipNullsDistinct :=
  .bind (atWord_forward _) fun _ => .ite
    (.bind advance_forward fun _ => .bind (atKeyword_forward _) fun _ =>
      .ite (.bind advance_forward fun _ => advance_forward) advance_forward)
    (.pure' _)

theorem skipNoInherit_forward : Forward skipNoInherit :=
  .bind (atKeyword_forward _) fun _ => .bind peekNext_forward fun _ =>
    .ite (.bind advance_forward fun _ => advance_forward) (.pure' _)

theorem typeNameLoop_forward : ∀ f depth text, Forward (typeNameLoop f depth text)
  | 0, _, _ => .pure' _
  | f + 1, depth, text => .bind current_forward fun tok => .ite (.pure' _) (by
      -- every branch reads at most one part of the type and hands it to the next round
      dsimp only
      split
      all_goals try split
      all_goals
        refine .bind ?_ fun next? => ?_
        · first | exact .pure' _ | exact fail_forward _
        · split
          · exact .pure' _
          · exact .bind advance_forward fun _ => typeNameLoop_forward f _ _)

theorem defaultLoop_forward (start : Nat) : ∀ f depth, Forward (defaultLoop start f depth)
  | 0, _ => .pure' _
  | f + 1, depth => .bind current_forward fun tok => .bind .get fun pos => by
    have next : ∀ d, Forward (advance >>= fun _ => defaultLoop start f d) := fun d =>
      .bind advance_forward fun _ => defaultLoop_forward start f d
    split
    · exact .pure' _
    · exact next _
    · exact .ite (.pure' _) (next _)
    · exact .ite (.pure' _) (next _)
    · exact .ite (.pure' _) (next _)

theorem defaultExpr_forward : Forward defaultExpr := by
  refine .bind .get fun start => .bind budget_forward fun b =>
    .bind (defaultLoop_forward start b 0) fun depth => ?_
  -- a depth left open fails before the rest, which only reads
  dsimp only
  refine .ite (.bind (fail_forward _) fun _ => ?_) ?_
  all_goals
    refine .bind .read fun env => .bind .get fun stop => ?_
    split
    · exact .ite (.pure' _) (.pure' _)
    · exact fail_forward _

theorem parenLoop_forward (openAt : Nat) : ∀ f depth, Forward (parenLoop openAt f depth)
  | 0, _ => .pure' _
  | f + 1, depth => .bind .read fun env => .bind .get fun pos => by
    have next : ∀ d, Forward (advance >>= fun _ => parenLoop openAt f d) := fun d =>
      .bind advance_forward fun _ => parenLoop_forward openAt f d
    split
    · exact fail_forward _
    · exact .ite (next _) (.ite (.ite (.bind advance_forward fun _ => .pure' _) (next _)) (next _))

theorem parenExpr_forward : Forward parenExpr := .bind .read fun env => .bind .get fun pos => by
  split
  · exact .ite (.bind advance_forward fun _ => .bind budget_forward fun _ => parenLoop_forward _ _ _)
      (fail_forward _)
  · exact fail_forward _

theorem columnListLoop_forward : ∀ f acc, Forward (columnListLoop f acc)
  | 0, _ => .pure' _
  | f + 1, _ => .bind (expectIdent_forward _) fun c => .bind current_forward fun tok => by
    split
    · exact .bind advance_forward fun _ => columnListLoop_forward f _
    · exact .bind advance_forward fun _ => .pure' _
    · exact fail_forward _

theorem columnList_forward : Forward columnList :=
  .bind (expect_forward _ _) fun _ => .bind budget_forward fun _ => columnListLoop_forward _ _

theorem referenceAction_forward : Forward referenceAction := by
  refine .bind current_forward fun tok => ?_
  -- every branch ends in the shared step past the action's last word
  have last : ∀ x : Parser Action, Forward x →
      Forward (x >>= fun action => advance >>= fun _ => pure action) := fun x hx =>
    .bind hx fun _ => .bind advance_forward fun _ => .pure' _
  dsimp only
  split
  · exact last _ (.pure' _)
  · exact last _ (.pure' _)
  · refine .bind advance_forward fun _ => .bind current_forward fun tok => ?_
    split
    · exact last _ (.pure' _)
    · exact last _ (.pure' _)
    · exact last _ (fail_forward _)
  · exact .bind advance_forward fun _ => .bind (atKeyword_forward _) fun _ =>
      .ite (last _ (.pure' _)) (last _ (fail_forward _))
  · exact last _ (fail_forward _)

theorem referenceLoop_forward : ∀ f r, Forward (referenceLoop f r)
  | 0, _ => .pure' _
  | f + 1, _ => .bind current_forward fun tok => by
    have last : ∀ (x : Parser Bool) (g : Bool → Action → ForeignKeyRef), Forward x →
        Forward (x >>= fun isUpdate => advance >>= fun _ =>
          referenceAction >>= fun action => referenceLoop f (g isUpdate action)) := fun x g hx =>
      .bind hx fun _ => .bind advance_forward fun _ => .bind referenceAction_forward fun _ =>
        referenceLoop_forward f _
    split
    · refine .bind advance_forward fun _ => .bind current_forward fun tok => ?_
      dsimp only
      split
      · exact last _ _ (.pure' _)
      · exact last _ _ (.pure' _)
      · exact last _ _ (fail_forward _)
    · exact .ite (.bind advance_forward fun _ => .bind advance_forward fun _ => referenceLoop_forward f _)
        (.pure' _)

theorem reference_forward : Forward reference := by
  refine .bind (qualifiedName_forward _) fun _ => .bind current_forward fun _ => ?_
  have rest : ∀ x : Parser (List String), Forward x → ∀ g : List String → ForeignKeyRef,
      Forward (x >>= fun columns => budget >>= fun b => referenceLoop b (g columns)) := fun x hx g =>
    .bind hx fun _ => .bind budget_forward fun _ => referenceLoop_forward _ _
  dsimp only
  exact .ite (rest _ columnList_forward _) (rest _ (.pure' _) _)

theorem constraintName_forward : Forward constraintName :=
  .bind (atKeyword_forward _) fun _ =>
    .ite (.bind advance_forward fun _ => .bind (expectIdent_forward _) fun _ => .pure' _) (.pure' _)

theorem typeName_forward : Forward typeName :=
  .bind budget_forward fun _ => .bind (typeNameLoop_forward _ _ _) fun _ =>
    .ite (fail_forward _) (.pure' _)

/-! ## Parsers that read a token -/

/-- Outside a separator, skipping an element reads at least the token at hand. -/
theorem skipElementLoop_advancesAt {t : Token} (h : t ≠ .comma ∧ t ≠ .rparen) (f : Nat) :
    AdvancesAt (some t) (skipElementLoop (f + 1) 0) := by
  refine .current_bind ?_
  split
  · contradiction
  · exact advance_then _ fun _ => skipElementLoop_forward _ _
  · exact absurd (Option.some.inj ‹_›) h.2
  · exact absurd (Option.some.inj ‹_›) h.1
  · exact advance_then _ fun _ => skipElementLoop_forward _ _

theorem skipElement_advancesAt {t : Token} (h : t ≠ .comma ∧ t ≠ .rparen) :
    AdvancesAt (some t) skipElement := fun env pos a pos' ht hrun =>
  skipElementLoop_advancesAt h env.tokens.size env pos a pos' ht hrun

/-- A column constraint reads at least one token, past its optional name. -/
theorem columnConstraint_advances : Advances columnConstraint := by
  refine .bind_right constraintName_forward fun name => .current fun t => ?_
  split
  · exact advance_then _ fun _ => .bind (expect_forward _ _) fun _ => .pure' _
  · refine advance_then _ fun _ => .bind current_forward fun tok => ?_
    split
    · exact .bind advance_forward fun _ => .pure' _
    · exact .ite (.bind advance_forward fun _ => .pure' _) (fail_forward _)
  · exact advance_then _ fun _ => .pure' _
  · exact advance_then _ fun _ => .bind skipNullsDistinct_forward fun _ => .pure' _
  · exact advance_then _ fun _ => .bind defaultExpr_forward fun _ => .pure' _
  · exact advance_then _ fun _ => .bind parenExpr_forward fun _ =>
      .bind skipNoInherit_forward fun _ => .pure' _
  · exact advance_then _ fun _ => .bind reference_forward fun _ => .pure' _
  · exact advance_then _ fun _ => .bind (qualifiedName_forward _) fun _ => .pure' _
  · exact .bind_left (skipElement_advancesAt ⟨by decide, by decide⟩) fun _ => .pure' _
  · -- the trailing words are read only where there is a token
    split
    · rename_i words
      cases t with
      | none => simp [isWord] at words
      | some tok => exact advance_then _ fun _ => .pure' _
    · exact fail_advancesAt _ _

theorem columnConstraintsLoop_forward : ∀ f acc, Forward (columnConstraintsLoop f acc)
  | 0, _ => .pure' _
  | f + 1, _ => .bind current_forward fun tok => by
    split
    all_goals first
      | exact .pure' _
      | exact .bind columnConstraint_advances.forward fun _ => columnConstraintsLoop_forward f _

theorem columnDef_forward : Forward columnDef :=
  .bind (expectIdent_forward _) fun _ => .bind typeName_forward fun _ =>
    .bind budget_forward fun _ => .bind (columnConstraintsLoop_forward _ _) fun _ => .pure' _

theorem tableConstraint_forward : Forward tableConstraint := by
  refine .bind constraintName_forward fun name => .bind current_forward fun tok => ?_
  split
  · exact .bind advance_forward fun _ => .bind (expect_forward _ _) fun _ =>
      .bind columnList_forward fun _ => .bind skipElement_forward fun _ => .pure' _
  · exact .bind advance_forward fun _ => .bind skipNullsDistinct_forward fun _ =>
      .bind columnList_forward fun _ => .bind skipElement_forward fun _ => .pure' _
  · exact .bind advance_forward fun _ => .bind parenExpr_forward fun _ =>
      .bind skipElement_forward fun _ => .pure' _
  · exact .bind advance_forward fun _ => .bind (expect_forward _ _) fun _ =>
      .bind columnList_forward fun _ => .bind (expect_forward _ _) fun _ =>
        .bind reference_forward fun _ => .bind skipElement_forward fun _ => .pure' _
  · exact fail_forward _

theorem alterCommand_forward : Forward alterCommand := by
  refine .bind current_forward fun tok => ?_
  split
  · exact fail_forward _
  · refine .bind advance_forward fun _ => .bind current_forward fun tok => ?_
    dsimp only
    refine .ite (.bind tableConstraint_forward fun _ => .pure' _) ?_
    have rest : Forward (skipIfNotExists >>= fun _ => columnDef >>= fun c => pure (AlterCommand.addColumn c)) :=
      .bind skipIfNotExists_forward fun _ => .bind columnDef_forward fun _ => .pure' _
    exact .bind (atKeyword_forward _) fun _ => .ite (.bind advance_forward fun _ => rest) rest
  · exact .bind skipElement_forward fun _ => .pure' _

end Sql.Parser

end Schemata
