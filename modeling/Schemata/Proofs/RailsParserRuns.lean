import Mathlib
import Schemata.Rails.Parser

/-!
# How far the schema file parsers move

A parser of schema files runs over the token array from one state to
another, and fails or succeeds. This module proves, for every parser the
statement loops call, that it never moves back (`Forward`), failing or not,
and for the statements a body reads, that they move on: a statement that
succeeds has read past its first token (`statement_advancesAt`), and one that
fails is recovered from by reading the token it started at (`tryCatch_moves`).

Both facts are stated over all token arrays and states and proved by
following each parser's own `do` block: a bind is forward when both sides
are, a branch when each arm is.
-/

namespace Schemata

namespace Rails.Parser

/-! ## Runs of a parser -/

section Runs

variable {α β : Type} (tokens : Array Spanned) (st : ParserState)

lemma run_bind (x : Parser α) (g : α → Parser β) :
    (x >>= g) tokens st = match x tokens st with
      | (.ok a, st') => g a tokens st'
      | (.error e, st') => (.error e, st') := by
  simp only [bind, ExceptT.bind, ExceptT.mk, ExceptT.bindCont, ReaderT.bind, StateT.bind]
  rcases x tokens st with ⟨_ | _, s⟩ <;> rfl

@[simp] lemma read_run : (read : Parser (Array Spanned)) tokens st = (.ok tokens, st) := rfl

@[simp] lemma get_run : (get : Parser ParserState) tokens st = (.ok st, st) := rfl

@[simp] lemma pure_run (a : α) : (pure a : Parser α) tokens st = (.ok a, st) := rfl

@[simp] lemma throw_run (e : ParseError) : (throw e : Parser α) tokens st = (.error e, st) := rfl

lemma peek_run : (peek : Parser Token) tokens st =
    (.ok (((tokens[st.pos]?).map (·.token)).getD .eof), st) := rfl

lemma advance_run : (advance : Parser Token) tokens st =
    (.ok (((tokens[st.pos]?).map (·.token)).getD .eof),
      if st.pos < tokens.size then { st with pos := st.pos + 1 } else st) := rfl

@[simp] lemma record_run (e : ParseError) :
    record e tokens st = (.ok (), { st with errors := st.errors ++ [e] }) := rfl

lemma tryCatch_run (x : Parser α) (h : ParseError → Parser α) :
    tryCatch x h tokens st = match x tokens st with
      | (.ok a, st') => (.ok a, st')
      | (.error e, st') => h e tokens st' := by
  show ExceptT.tryCatch x h tokens st = _
  simp only [ExceptT.tryCatch, ExceptT.mk, bind, ReaderT.bind, StateT.bind]
  rcases x tokens st with ⟨_ | _, s⟩ <;> rfl

end Runs

/-- The token at a position, the end token past the last. -/
def tokenAt (tokens : Array Spanned) (pos : Nat) : Token :=
  ((tokens[pos]?).map (·.token)).getD .eof

lemma lt_size_of_tokenAt {tokens : Array Spanned} {pos : Nat} (h : tokenAt tokens pos ≠ .eof) :
    pos < tokens.size := by
  by_contra past
  exact h (by simp [tokenAt, Array.getElem?_eq_none (Nat.le_of_not_lt past)])

/-! ## Parsers that move forward -/

/-- A parser that never moves back, whether it succeeds or fails. -/
def Forward {α : Type} (p : Parser α) : Prop :=
  ∀ tokens st, st.pos ≤ (p tokens st).2.pos

namespace Forward

variable {α β : Type}

lemma pure' (a : α) : Forward (pure a : Parser α) := fun _ st => le_refl st.pos

lemma throw (e : ParseError) : Forward (throw e : Parser α) := fun _ st => le_refl st.pos

lemma bind {x : Parser α} {g : α → Parser β} (hx : Forward x) (hg : ∀ a, Forward (g a)) :
    Forward (x >>= g) := by
  intro tokens st
  have := hx tokens st
  rw [run_bind]
  split
  · next a st' hr => rw [hr] at this; exact le_trans this (hg a tokens st')
  · next e st' hr => rw [hr] at this; exact this

lemma ite {c : Prop} [Decidable c] {p q : Parser α} (hp : Forward p) (hq : Forward q) :
    Forward (if c then p else q) := by
  split
  · exact hp
  · exact hq

lemma get : Forward (get : Parser ParserState) := fun _ st => le_refl st.pos

/-- A run that starts past a position ends past it. -/
lemma lt {p : Parser α} (hp : Forward p) {tokens : Array Spanned} {st : ParserState} {pos : Nat}
    (before : pos < st.pos) : pos < (p tokens st).2.pos :=
  Nat.lt_of_lt_of_le before (hp tokens st)

lemma tryCatch {x : Parser α} {h : ParseError → Parser α} (hx : Forward x)
    (hh : ∀ e, Forward (h e)) : Forward (tryCatch x h) := by
  intro tokens st
  have := hx tokens st
  rw [tryCatch_run]
  split
  · next a st' hr => rw [hr] at this; exact this
  · next e st' hr => rw [hr] at this; exact le_trans this (hh e tokens st')

end Forward

/-! ## The parsers of statements -/

theorem peekAt_forward (ahead : Nat) : Forward (peekAt ahead) := fun _ st => le_refl st.pos

theorem peek_forward : Forward peek := peekAt_forward 0

theorem offset_forward : Forward offset := fun _ st => le_refl st.pos

theorem budget_forward : Forward budget := fun _ st => le_refl st.pos

theorem advance_forward : Forward advance := by
  intro tokens st
  rw [advance_run]
  split
  · exact Nat.le_succ st.pos
  · exact le_refl st.pos

theorem unexpected_forward (expected : String) : Forward (unexpected expected) :=
  fun _ st => le_refl st.pos

theorem record_forward (e : ParseError) : Forward (record e) := fun _ st => le_refl st.pos

theorem skipNewlinesLoop_forward : ∀ f, Forward (skipNewlinesLoop f)
  | 0 => .pure' _
  | f + 1 => .bind peek_forward fun _ =>
    .ite (.bind advance_forward fun _ => skipNewlinesLoop_forward f) (.pure' _)

theorem skipNewlines_forward : Forward skipNewlines :=
  .bind budget_forward fun _ => skipNewlinesLoop_forward _

theorem skipStatementLoop_forward : ∀ f depth, Forward (skipStatementLoop f depth)
  | 0, _ => .pure' _
  | f + 1, depth => .bind peek_forward fun t => by
    have next : ∀ d, Forward (advance >>= fun _ => skipStatementLoop f d) := fun d =>
      .bind advance_forward fun _ => skipStatementLoop_forward f d
    split
    · exact .pure' _
    · exact .ite (.pure' _) (next _)
    · exact .ite (next _) (.ite (.ite (.pure' _) (next _)) (next _))

theorem skipStatement_forward : Forward skipStatement :=
  .bind budget_forward fun _ => skipStatementLoop_forward _ _

theorem skipBlockParamsLoop_forward : ∀ f, Forward (skipBlockParamsLoop f)
  | 0 => .pure' _
  | f + 1 => .bind peek_forward fun t => by
    split
    all_goals first
      | exact .pure' _
      | exact .bind advance_forward fun _ => skipBlockParamsLoop_forward f

theorem skipBlockParams_forward : Forward skipBlockParams := by
  refine .bind peek_forward fun t => .ite ?_ (.pure' _)
  exact .bind advance_forward fun _ => .bind budget_forward fun _ =>
    .bind (skipBlockParamsLoop_forward _) fun _ => .bind peek_forward fun _ =>
      .ite (.bind advance_forward fun _ => .pure' _) (.pure' _)

theorem skipBracedLoop_forward : ∀ f depth body, Forward (skipBracedLoop f depth body)
  | 0, _, _ => .pure' _
  | f + 1, depth, body => .bind advance_forward fun t => by
    split
    all_goals first
      | exact .pure' _
      | exact skipBracedLoop_forward f _ _
      | exact .ite (.pure' _) (skipBracedLoop_forward f _ _)

theorem skipBraced_forward : Forward skipBraced :=
  .bind budget_forward fun _ => skipBracedLoop_forward _ _ _

theorem skipChainLoop_forward : ∀ f, Forward (skipChainLoop f)
  | 0 => .pure' _
  | f + 1 => .bind peek_forward fun _ => .bind (peekAt_forward 1) fun _ =>
    .ite (.bind advance_forward fun _ => .bind advance_forward fun _ => skipChainLoop_forward f)
      (.pure' _)

theorem value_forward : ∀ f, Forward (value f) ∧ ∀ items, Forward (arrayItems f items)
  | 0 => ⟨.pure' _, fun _ => .pure' _⟩
  | f + 1 => by
    obtain ⟨value_f, items_f⟩ := value_forward f
    constructor
    · refine .bind advance_forward fun t => ?_
      -- past `=>` and `{`, the braces are skipped and a lambda returned, whatever they hold
      have lambda : ∀ k : List Token → Parser Value, (∀ body, Forward (k body)) →
          Forward (advance >>= fun _ => skipBraced >>= k) :=
        fun k each => .bind advance_forward fun _ => .bind skipBraced_forward each
      split
      all_goals first
        | exact .pure' _
        | exact .bind budget_forward fun _ => .bind (skipChainLoop_forward _) fun _ => .pure' _
        | exact .bind (items_f _) fun _ => .pure' _
        | exact .bind skipBraced_forward fun _ => .pure' _
        | exact .bind offset_forward fun _ => .throw _
        | (refine .bind peek_forward fun _ => ?_
           dsimp only
           refine .ite (.bind (unexpected_forward _) fun _ => .bind (.throw _) fun _ =>
             lambda _ ?_) (lambda _ ?_)
           all_goals
             intro body
             split <;> exact .pure' _)
    · intro items
      refine .bind skipNewlines_forward fun _ => .bind peek_forward fun _ => ?_
      refine .ite (.bind advance_forward fun _ => .pure' _) ?_
      refine .bind value_f fun _ => .bind skipNewlines_forward fun _ => .bind advance_forward fun t => ?_
      split
      · exact items_f _
      · exact .pure' _
      · exact .bind offset_forward fun _ => .throw _

theorem atArgumentsEnd_forward (inParens : Bool) : Forward (atArgumentsEnd inParens) :=
  .bind peek_forward fun t => by
    split <;> exact .pure' _

theorem argumentsLoop_forward (inParens : Bool) :
    ∀ f args opts, Forward (argumentsLoop inParens f args opts)
  | 0, _, _ => .pure' _
  | f + 1, args, opts => by
    -- every way through the round ends at the shared test for a comma
    have tail : ∀ a o, Forward (peek >>= fun t => if (t == .comma) = true then
        advance >>= fun _ => skipNewlines >>= fun _ => argumentsLoop inParens f a o
      else pure (a, o)) := fun a o =>
      .bind peek_forward fun _ => .ite (.bind advance_forward fun _ =>
        .bind skipNewlines_forward fun _ => argumentsLoop_forward inParens f a o) (.pure' _)
    simp only [argumentsLoop]
    refine .ite (.bind skipNewlines_forward fun _ => ?_) ?_
    all_goals
      refine .bind (atArgumentsEnd_forward _) fun _ => .ite (.pure' _) (.bind peek_forward fun t => ?_)
      split
      · exact .bind advance_forward fun _ => .bind skipNewlines_forward fun _ =>
          .bind budget_forward fun _ => .bind (value_forward _).1 fun _ =>
            .bind (.pure' _) fun x => tail x.1 x.2
      · refine .bind (peekAt_forward 1) fun _ => .ite ?_ ?_
        · refine .bind budget_forward fun _ => .bind (value_forward _).1 fun key =>
            .bind advance_forward fun _ => .bind budget_forward fun _ =>
              .bind (value_forward _).1 fun v => ?_
          split <;> exact .bind (.pure' _) fun x => tail x.1 x.2
        · exact .bind budget_forward fun _ => .bind (value_forward _).1 fun _ =>
            .bind (.pure' _) fun x => tail x.1 x.2

theorem endOfStatement_forward : Forward endOfStatement :=
  .bind peek_forward fun t => by
    split
    · exact .pure' _
    · exact .pure' _
    · exact .ite (.pure' _) (.bind (unexpected_forward _) fun _ => .throw _)

theorem callAfterName_forward (at_ : Nat) (name : String) {readBlock : Parser (List Call)}
    (block : Forward readBlock) : Forward (callAfterName at_ name readBlock) := by
  -- the rest of a call is a chain of binds whose every step is forward
  simp only [callAfterName]
  repeat' first
    | with_reducible exact .pure' _
    | with_reducible exact .throw _
    | with_reducible exact offset_forward
    | with_reducible exact peek_forward
    | with_reducible exact advance_forward
    | with_reducible exact budget_forward
    | with_reducible exact skipBlockParams_forward
    | with_reducible exact endOfStatement_forward
    | with_reducible exact argumentsLoop_forward _ _ _ _
    | with_reducible exact block
    | with_reducible refine .bind ?_ fun _ => ?_
    | with_reducible refine .ite ?_ ?_
    | split

theorem body_forward : ∀ f, (∀ inBlock calls, Forward (body f inBlock calls)) ∧
    Forward (statement f) ∧ Forward (through f)
  | 0 => ⟨fun _ _ => .pure' _, .pure' _, .pure' _⟩
  | f + 1 => by
    obtain ⟨body_f, statement_f, through_f⟩ := body_forward f
    refine ⟨fun inBlock calls => ?_, ?_, ?_⟩
    · refine .bind skipNewlines_forward fun _ => .bind peek_forward fun t =>
        .ite (.pure' _) (.ite (.bind advance_forward fun _ => .pure' _) (.bind .get fun s => ?_))
      refine .bind (.tryCatch statement_f fun e => ?_) fun parsed => body_f _ _
      exact .bind (record_forward e) fun _ => .bind .get fun _ =>
        .ite (.bind advance_forward fun _ => .bind skipStatement_forward fun _ => .pure' _)
          (.bind skipStatement_forward fun _ => .pure' _)
    · -- a constant's chain, or the rest of a call past its name
      have rest : ∀ at_ name, Forward (if isConstant name = true then through f else
          advance >>= fun _ => callAfterName at_ name (body f true [])) := fun _ _ =>
        .ite through_f (.bind advance_forward fun _ => callAfterName_forward _ _ (body_f _ _))
      simp only [statement]
      refine .bind offset_forward fun at_ => .bind peek_forward fun t => ?_
      split
      · exact .bind (.pure' _) (rest at_)
      · exact .bind (unexpected_forward _) fun _ => .bind (.throw _) (rest at_)
    · refine .bind peek_forward fun t => ?_
      split
      · exact .pure' _
      · exact .pure' _
      · exact .ite (.bind advance_forward fun _ => .bind skipBlockParams_forward fun _ => body_f _ _)
          (.bind advance_forward fun _ => through_f)

/-! ## Statements that read their first token -/

/-- A run that reads a present token and never moves back after it ends
past that token. -/
lemma advance_bind_moves {α : Type} {tokens : Array Spanned} {st : ParserState} {pos : Nat}
    {g : Token → Parser α} (here : st.pos = pos) (inside : pos < tokens.size)
    (hg : ∀ u, Forward (g u)) : pos < ((advance >>= g) tokens st).2.pos := by
  subst here
  rw [run_bind, advance_run, if_pos inside]
  exact (hg _).lt (Nat.lt_succ_self _)

/-- From a state whose token is `t`, every successful run of `p` moves past it. -/
def AdvancesAt {α : Type} (t : Token) (p : Parser α) : Prop :=
  ∀ tokens st a st', tokenAt tokens st.pos = t → p tokens st = (.ok a, st') → st.pos < st'.pos

namespace AdvancesAt

variable {α β : Type} {t : Token}

lemma offset_bind {g : Nat → Parser α} (h : ∀ o, AdvancesAt t (g o)) :
    AdvancesAt t (offset >>= g) :=
  fun tokens st a st' ht run => h _ tokens st a st' ht run

lemma peek_bind {g : Token → Parser α} (h : AdvancesAt t (g t)) : AdvancesAt t (peek >>= g) := by
  intro tokens st a st' ht run
  rw [run_bind, peek_run] at run
  exact h tokens st a st' ht (by simpa only [tokenAt] using ht ▸ run)

lemma pure_bind {a : β} {g : β → Parser α} (h : AdvancesAt t (g a)) : AdvancesAt t (pure a >>= g) :=
  h

lemma ite {p q : Parser α} {b : Prop} [Decidable b] (hp : b → AdvancesAt t p)
    (hq : ¬b → AdvancesAt t q) : AdvancesAt t (if b then p else q) := by
  split
  · next h => exact hp h
  · next h => exact hq h

/-- Reading a present token, and never moving back after it. -/
lemma advance_bind {g : Token → Parser α} (present : t ≠ .eof) (hg : ∀ u, Forward (g u)) :
    AdvancesAt t (advance >>= g) := by
  intro tokens st a st' ht run
  have moved := advance_bind_moves rfl (lt_size_of_tokenAt (ht ▸ present)) hg
  rw [run] at moved
  exact moved

/-- A parser that ends by raising an error has no successful run. -/
lemma raises {x : Parser ParseError} {g : β → Parser α} :
    AdvancesAt t (x >>= fun e => throw e >>= g) := by
  intro tokens st a st' _ run
  rw [run_bind] at run
  split at run
  · rw [run_bind, throw_run] at run
    cases run
  · cases run

end AdvancesAt

theorem through_advancesAt (f : Nat) (name : String) : AdvancesAt (.ident name) (through (f + 1)) := by
  simp only [through]
  refine .peek_bind ?_
  dsimp only
  exact .ite (fun _ => .advance_bind (by simp) fun _ =>
      .bind skipBlockParams_forward fun _ => (body_forward f).1 _ _)
    fun _ => .advance_bind (by simp) fun _ => (body_forward f).2.2

/-- A statement that succeeds has read its first name: a constant's chain moves
on to the next token, and a call reads past its name. -/
theorem statement_advancesAt (f : Nat) (t : Token) : AdvancesAt t (statement (f + 2)) := by
  simp only [statement]
  refine .offset_bind fun at_ => .peek_bind ?_
  split
  · exact .pure_bind (.ite (fun _ => through_advancesAt f _) fun _ => .advance_bind (by simp)
      fun _ => callAfterName_forward _ _ ((body_forward _).1 _ _))
  · exact .raises

/-- A statement recovered from moves on: if it failed where it started, the
recovery reads the token there. -/
lemma tryCatch_moves {α : Type} {x : Parser α} {h : ParseError → Parser α} {tokens : Array Spanned}
    {st : ParserState} (forward : Forward x)
    (moves : ∀ a st', x tokens st = (.ok a, st') → st.pos < st'.pos)
    (recover : ∀ e st', st.pos ≤ st'.pos → st.pos < (h e tokens st').2.pos) :
    st.pos < (tryCatch x h tokens st).2.pos := by
  have moved := forward tokens st
  rw [tryCatch_run]
  split
  · next a st' hr => exact moves a st' hr
  · next e st' hr =>
    rw [hr] at moved
    exact recover e st' moved

end Rails.Parser

end Schemata
