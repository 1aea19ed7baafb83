import Mathlib
import Schemata.Proofs.Fuel
import Schemata.Proofs.RailsParserRuns

/-!
# The schema file parser's loops run to completion

The inner loops of the parser run on the budget `budget`, two rounds for each
token and two more, and the statements of the whole input on three rounds for
each token and eight more. This module proves that neither budget binds
(`fuelSuffices`): each loop gives the same run under any more fuel.

The argument is relational and weighted. `AgreeWithin tokens w c n p q` says
that `p` and `q` run alike from every state where `w` rounds for each token
left, and `c` more, fit in `n`. A round of a loop with more fuel must agree
with the round with `f + 1` given that the later rounds agree within `f`
(`settles_of_round`), and it pays `w` to hand on to the next by moving past a
token. A body pays for its statements this way: a statement that succeeds has
read its name, and a failed one is recovered from past its first token. A
constant receiver hands its token on to the chain after it without reading it,
so bodies, statements and chains count each token three times, with a body's
round worth one more than a statement's and a statement's one more than a
chain's (`body_settles`).
-/

namespace Schemata

namespace Rails.Parser

/-! ## Parsers that agree near the end -/

/-- In `tokens`, `p` and `q` give the same run from every state whose tokens
left, each counted `w` times, plus `c` are at most `n`. -/
def AgreeWithin {α : Type} (tokens : Array Spanned) (w c n : Nat) (p q : Parser α) : Prop :=
  ∀ st : ParserState, w * (tokens.size - st.pos) + c ≤ n → p tokens st = q tokens st

/-- The same, from the states whose token is `t`. -/
def AgreeWithinAt {α : Type} (tokens : Array Spanned) (w c n : Nat) (t : Token)
    (p q : Parser α) : Prop :=
  ∀ st : ParserState, w * (tokens.size - st.pos) + c ≤ n → tokenAt tokens st.pos = t →
    p tokens st = q tokens st

namespace AgreeWithin

variable {α β : Type} {tokens : Array Spanned} {w c n : Nat}

lemma refl (p : Parser α) : AgreeWithin tokens w c n p p := fun _ _ => rfl

lemma mono {c' n' : Nat} {p q : Parser α} (h : AgreeWithin tokens w c n p q)
    (le : ∀ d, w * d + c' ≤ n' → w * d + c ≤ n) : AgreeWithin tokens w c' n' p q :=
  fun st within => h st (le _ within)

/-- Runs that agree stay in agreement past a parser that never moves back. -/
lemma bind {x x' : Parser α} {g g' : α → Parser β} (hx : AgreeWithin tokens w c n x x')
    (forward : Forward x) (h : ∀ a, AgreeWithin tokens w c n (g a) (g' a)) :
    AgreeWithin tokens w c n (x >>= g) (x' >>= g') := by
  intro st within
  have moved := forward tokens st
  rw [run_bind, run_bind, ← hx st within]
  split
  · next a st' hr =>
    rw [hr] at moved
    exact h a st' (weighted_le_of_le moved within)
  · rfl

/-- The same for a parser that recovers from its errors. -/
lemma tryCatch {x x' : Parser α} {h h' : ParseError → Parser α} (hx : AgreeWithin tokens w c n x x')
    (forward : Forward x) (hh : ∀ e, AgreeWithin tokens w c n (h e) (h' e)) :
    AgreeWithin tokens w c n (tryCatch x h) (tryCatch x' h') := by
  intro st within
  have moved := forward tokens st
  rw [tryCatch_run, tryCatch_run, ← hx st within]
  split
  · rfl
  · next e st' hr =>
    rw [hr] at moved
    exact hh e st' (weighted_le_of_le moved within)

lemma throw_bind {e : ParseError} {g g' : β → Parser α} :
    AgreeWithin tokens w c n (throw e >>= g) (throw e >>= g') := fun _ _ => rfl

/-- The same parser on both sides. -/
lemma step {x : Parser α} {g g' : α → Parser β} (forward : Forward x)
    (h : ∀ a, AgreeWithin tokens w c n (g a) (g' a)) :
    AgreeWithin tokens w c n (x >>= g) (x >>= g') :=
  .bind (.refl x) forward h

lemma peek {g g' : Token → Parser α} (h : ∀ t, AgreeWithinAt tokens w c n t (g t) (g' t)) :
    AgreeWithin tokens w c n (Parser.peek >>= g) (Parser.peek >>= g') := fun st within =>
  h _ st within rfl

lemma ite {p p' q q' : Parser α} {b : Prop} [Decidable b] (hp : b → AgreeWithin tokens w c n p p')
    (hq : ¬b → AgreeWithin tokens w c n q q') :
    AgreeWithin tokens w c n (if b then p else q) (if b then p' else q') := by
  split
  · next h => exact hp h
  · next h => exact hq h

end AgreeWithin

namespace AgreeWithinAt

variable {α β : Type} {tokens : Array Spanned} {w c n : Nat} {t : Token}

lemma of {p q : Parser α} (h : AgreeWithin tokens w c n p q) : AgreeWithinAt tokens w c n t p q :=
  fun st within _ => h st within

lemma refl (p : Parser α) : AgreeWithinAt tokens w c n t p p := fun _ _ _ => rfl

lemma mono {c' n' : Nat} {p q : Parser α} (h : AgreeWithinAt tokens w c n t p q)
    (le : ∀ d, w * d + c' ≤ n' → w * d + c ≤ n) : AgreeWithinAt tokens w c' n' t p q :=
  fun st within ht => h st (le _ within) ht

lemma ite {p p' q q' : Parser α} {b : Prop} [Decidable b]
    (hp : b → AgreeWithinAt tokens w c n t p p') (hq : ¬b → AgreeWithinAt tokens w c n t q q') :
    AgreeWithinAt tokens w c n t (if b then p else q) (if b then p' else q') := by
  split
  · next h => exact hp h
  · next h => exact hq h

lemma peek_bind {g g' : Token → Parser α} (h : AgreeWithinAt tokens w c n t (g t) (g' t)) :
    AgreeWithinAt tokens w c n t (Parser.peek >>= g) (Parser.peek >>= g') :=
  fun st within ht => by
    have run := h st within ht
    simp only [tokenAt] at ht
    show g (((tokens[st.pos + 0]?).map (·.token)).getD .eof) tokens st =
      g' (((tokens[st.pos + 0]?).map (·.token)).getD .eof) tokens st
    rw [Nat.add_zero, ht]
    exact run

lemma peekAt_bind {g g' : Token → Parser α} (ahead : Nat)
    (h : ∀ u, AgreeWithinAt tokens w c n t (g u) (g' u)) :
    AgreeWithinAt tokens w c n t (peekAt ahead >>= g) (peekAt ahead >>= g') :=
  fun st within ht => h _ st within ht

lemma pure_bind {a : β} {g g' : β → Parser α} (h : AgreeWithinAt tokens w c n t (g a) (g' a)) :
    AgreeWithinAt tokens w c n t (pure a >>= g) (pure a >>= g') := h

/-- Past a token, `w` rounds fewer are left. -/
lemma advance {g g' : Token → Parser α} (present : t ≠ .eof)
    (h : ∀ u, AgreeWithin tokens w c (n - w) (g u) (g' u)) :
    AgreeWithinAt tokens w c n t (Parser.advance >>= g) (Parser.advance >>= g') := by
  intro st within ht
  have inside := lt_size_of_tokenAt (ht ▸ present)
  rw [run_bind, run_bind, advance_run, if_pos inside]
  have := weighted_left_succ (w := w) inside
  exact h _ _ (by simp only; omega)

end AgreeWithinAt

/-- A value or a skipped expression reads its first token unconditionally: the
rest of the round agrees past it, and at the end both sides read the end
token alike. -/
lemma AgreeWithin.advance_match {α : Type} {tokens : Array Spanned} {w c n : Nat}
    {g g' : Token → Parser α} (h : ∀ u, u ≠ .eof → AgreeWithin tokens w c (n - w) (g u) (g' u))
    (atEnd : g .eof = g' .eof) :
    AgreeWithin tokens w c n (Parser.advance >>= g) (Parser.advance >>= g') := by
  intro st within
  rw [run_bind, run_bind, advance_run]
  by_cases ended : tokenAt tokens st.pos = .eof
  · simp only [tokenAt] at ended
    rw [ended]
    dsimp only
    rw [atEnd]
  · have inside := lt_size_of_tokenAt ended
    rw [if_pos inside]
    have := weighted_left_succ (w := w) inside
    exact h _ ended _ (by simp only; omega)

/-- Two calls agree when their blocks do: everything else they read is the same. -/
lemma callAfterName_agree {tokens : Array Spanned} {w c n : Nat} (at_ : Nat) (name : String)
    {readBlock readBlock' : Parser (List Call)} (forward : Forward readBlock)
    (block : AgreeWithin tokens w c n readBlock readBlock') :
    AgreeWithin tokens w c n (callAfterName at_ name readBlock) (callAfterName at_ name readBlock') := by
  simp only [callAfterName]
  repeat' first
    | with_reducible exact .refl _
    | with_reducible exact block
    | with_reducible exact forward
    | with_reducible exact Forward.pure' _
    | with_reducible exact Forward.throw _
    | with_reducible exact offset_forward
    | with_reducible exact peek_forward
    | with_reducible exact advance_forward
    | with_reducible exact budget_forward
    | with_reducible exact skipBlockParams_forward
    | with_reducible exact endOfStatement_forward
    | with_reducible exact argumentsLoop_forward _ _ _ _
    | with_reducible refine AgreeWithin.step ?_ fun _ => ?_
    | with_reducible refine AgreeWithin.bind ?_ ?_ fun _ => ?_
    | with_reducible refine AgreeWithin.ite (fun _ => ?_) fun _ => ?_
    | with_reducible refine Forward.bind ?_ fun _ => ?_
    | with_reducible refine Forward.ite ?_ ?_
    | split

/-- A loop settles once each round with more fuel runs as with less, given that
the later rounds do; its need is `w` rounds per token left plus `c`. -/
theorem settles_of_round {β γ : Type} {L : Nat → β → Parser γ} (tokens : Array Spanned)
    (w c : Nat) (positive : 0 < c)
    (round : ∀ f k b, (∀ b', AgreeWithin tokens w c f (L (f + k) b') (L f b')) →
      AgreeWithin tokens w c (f + 1) (L (f + k + 1) b) (L (f + 1) b)) :
    SettlesWithin (fun x : β × ParserState => w * (tokens.size - x.2.pos) + c)
      (fun f x => L f x.1 tokens x.2) := by
  refine SettlesWithin.of_round (fun x ended => by omega) (fun f ⟨b, st⟩ enough later k => ?_)
  rw [Nat.add_right_comm]
  exact round f k b (fun b' st' within => later (b', st') within k) st enough

theorem skipNewlinesLoop_settles (tokens : Array Spanned) :
    SettlesWithin (fun x : Unit × ParserState => 2 * (tokens.size - x.2.pos) + 2)
      (fun f x => skipNewlinesLoop f tokens x.2) := by
  refine settles_of_round (L := fun f (_ : Unit) => skipNewlinesLoop f) tokens 2 2 (by omega)
    fun f k _ later => ?_
  simp only [skipNewlinesLoop]
  refine .peek fun t => .ite (fun newline => ?_) fun _ => .refl _
  obtain rfl : t = .newline := eq_of_beq newline
  exact .advance (by decide) fun _ => (later ()).mono fun _ _ => by omega

theorem skipStatementLoop_settles (tokens : Array Spanned) :
    SettlesWithin (fun x : Nat × ParserState => 2 * (tokens.size - x.2.pos) + 2)
      (fun f x => skipStatementLoop f x.1 tokens x.2) := by
  refine settles_of_round tokens 2 2 (by omega) fun f k depth later => ?_
  simp only [skipStatementLoop]
  refine .peek fun t => ?_
  split
  · exact .refl _
  · exact .ite (fun _ => .refl _) fun _ => .advance (by decide) fun _ => (later _).mono fun _ _ => by omega
  · have present : t ≠ .eof := by assumption
    have next : ∀ d, AgreeWithinAt tokens 2 2 (f + 1) t (advance >>= fun _ => skipStatementLoop (f + k) d)
        (advance >>= fun _ => skipStatementLoop f d) := fun d =>
      .advance present fun _ => (later d).mono fun _ _ => by omega
    exact .ite (fun _ => next _) fun _ => .ite (fun _ => .ite (fun _ => .refl _) fun _ => next _)
      fun _ => next _

theorem skipBlockParamsLoop_settles (tokens : Array Spanned) :
    SettlesWithin (fun x : Unit × ParserState => 2 * (tokens.size - x.2.pos) + 2)
      (fun f x => skipBlockParamsLoop f tokens x.2) := by
  refine settles_of_round (L := fun f (_ : Unit) => skipBlockParamsLoop f) tokens 2 2 (by omega)
    fun f k _ later => ?_
  simp only [skipBlockParamsLoop]
  refine .peek fun t => ?_
  split
  · exact .refl _
  · exact .refl _
  · exact .refl _
  · have present : t ≠ .eof := by assumption
    exact .advance present fun _ => (later ()).mono fun _ _ => by omega

theorem skipBracedLoop_settles (tokens : Array Spanned) :
    SettlesWithin (fun x : (Nat × List Token) × ParserState => 2 * (tokens.size - x.2.pos) + 2)
      (fun f x => skipBracedLoop f x.1.1 x.1.2 tokens x.2) := by
  refine settles_of_round (L := fun f (x : Nat × List Token) => skipBracedLoop f x.1 x.2) tokens 2 2
    (by omega) fun f k ⟨depth, body⟩ later => ?_
  simp only [skipBracedLoop]
  refine .advance_match (fun t present => ?_) rfl
  split
  all_goals first
    | exact .refl _
    | exact (later (_, _)).mono fun _ _ => by omega
    | exact .ite (fun _ => .refl _) fun _ => (later (_, _)).mono fun _ _ => by omega

theorem skipChainLoop_settles (tokens : Array Spanned) :
    SettlesWithin (fun x : Unit × ParserState => 2 * (tokens.size - x.2.pos) + 2)
      (fun f x => skipChainLoop f tokens x.2) := by
  refine settles_of_round (L := fun f (_ : Unit) => skipChainLoop f) tokens 2 2 (by omega)
    fun f k _ later => ?_
  simp only [skipChainLoop]
  refine .peek fun t => .peekAt_bind 1 fun t1 => .ite (fun chained => ?_) fun _ => .refl _
  have present : t ≠ .eof := by
    rintro rfl
    simp at chained
  -- the chain's two tokens are read in one round
  exact .advance present fun _ => .step advance_forward fun _ =>
    (later ()).mono fun _ _ => by omega

/-- Values and arrays settle together: a value takes one round for its first
token, an array one for each item and the separator after it. -/
theorem value_settles (tokens : Array Spanned) :
    ∀ f k, AgreeWithin tokens 2 1 f (value (f + k)) (value f) ∧
      ∀ items, AgreeWithin tokens 2 2 f (arrayItems (f + k) items) (arrayItems f items)
  | 0, _ => ⟨fun _ within => absurd within (by omega), fun _ _ within => absurd within (by omega)⟩
  | f + 1, k => by
    have ih := value_settles tokens f k
    rw [Nat.add_right_comm]
    constructor
    · simp only [value]
      refine .advance_match (fun t present => ?_) rfl
      split
      all_goals first
        | exact .refl _
        | exact .bind ((ih.2 []).mono fun _ _ => by omega) ((value_forward _).2 []) fun _ => .refl _
    · intro items
      simp only [arrayItems]
      refine .step skipNewlines_forward fun _ => .peek fun t =>
        .ite (fun _ => .refl _) fun _ => .of ?_
      refine .bind (ih.1.mono fun _ _ => by omega) (value_forward _).1 fun v =>
        .step skipNewlines_forward fun _ => .advance_match (fun t present => ?_) rfl
      split
      · exact (ih.2 _).mono fun _ _ => by omega
      · exact .refl _
      · exact .refl _

theorem argumentsLoop_settles (tokens : Array Spanned) (inParens : Bool) :
    SettlesWithin
      (fun x : (List Value × List (String × Value)) × ParserState => 2 * (tokens.size - x.2.pos) + 2)
      (fun f x => argumentsLoop inParens f x.1.1 x.1.2 tokens x.2) := by
  refine settles_of_round (L := fun f (x : List Value × List (String × Value)) =>
    argumentsLoop inParens f x.1 x.2) tokens 2 2 (by omega) fun f k ⟨args, opts⟩ later => ?_
  -- every way through the round ends at the shared test for a comma, which pays for it
  have tail : ∀ a o, AgreeWithin tokens 2 2 (f + 1)
      (peek >>= fun t => if (t == .comma) = true then
        advance >>= fun _ => skipNewlines >>= fun _ => argumentsLoop inParens (f + k) a o
      else pure (a, o))
      (peek >>= fun t => if (t == .comma) = true then
        advance >>= fun _ => skipNewlines >>= fun _ => argumentsLoop inParens f a o
      else pure (a, o)) := fun a o =>
    .peek fun t => .ite (fun comma => by
        obtain rfl : t = .comma := eq_of_beq comma
        exact .advance (by decide) fun _ => .step skipNewlines_forward fun _ =>
          (later (a, o)).mono fun _ _ => by omega)
      fun _ => .refl _
  simp only [argumentsLoop]
  refine .ite (fun _ => .step skipNewlines_forward fun _ => ?_) fun _ => ?_
  all_goals
    refine .step (atArgumentsEnd_forward _) fun _ => .ite (fun _ => .refl _) fun _ => .peek fun t => ?_
    split
    · exact .of (.step advance_forward fun _ => .step skipNewlines_forward fun _ =>
        .step budget_forward fun _ => .step (value_forward _).1 fun _ =>
          .step (.pure' _) fun x => tail x.1 x.2)
    · refine .peekAt_bind 1 fun _ => .of (.ite (fun _ => ?_) fun _ => ?_)
      · refine .step budget_forward fun _ => .step (value_forward _).1 fun key =>
          .step advance_forward fun _ => .step budget_forward fun _ =>
            .step (value_forward _).1 fun v => ?_
        split <;> exact .step (.pure' _) fun x => tail x.1 x.2
      · exact .step budget_forward fun _ => .step (value_forward _).1 fun _ =>
          .step (.pure' _) fun x => tail x.1 x.2

/-- Runs that agree on a first step that moves on agree when what follows
does from every state further on. -/
lemma run_bind_of_moves {α β : Type} {tokens : Array Spanned} {st : ParserState}
    {x x' : Parser α} {g g' : α → Parser β} (same : x tokens st = x' tokens st)
    (moves : st.pos < (x' tokens st).2.pos)
    (later : ∀ a st', st.pos < st'.pos → g a tokens st' = g' a tokens st') :
    (x >>= g) tokens st = (x' >>= g') tokens st := by
  rw [run_bind, run_bind, same]
  split
  · next a st' hr =>
    rw [hr] at moves
    exact later a st' moves
  · rfl

/-- Bodies, statements and constant chains settle together. A body's round
reads a statement, or recovers, and either way moves past a token; a
statement's round reads its name, or hands a constant on to its chain at the
same token; a chain's round reads a token. So a token costs at most three
rounds, and the measure counts each token three times. -/
theorem body_settles (tokens : Array Spanned) :
    ∀ f k, (∀ inBlock calls,
        AgreeWithin tokens 3 3 f (body (f + k) inBlock calls) (body f inBlock calls)) ∧
      AgreeWithin tokens 3 2 f (statement (f + k)) (statement f) ∧
      AgreeWithin tokens 3 1 f (through (f + k)) (through f)
  | 0, _ => ⟨fun _ _ _ within => absurd within (by omega), fun _ within => absurd within (by omega),
      fun _ within => absurd within (by omega)⟩
  | f + 1, k => by
    obtain ⟨body_ih, statement_ih, through_ih⟩ := body_settles tokens f k
    rw [Nat.add_right_comm]
    refine ⟨fun inBlock calls => ?_, ?_, ?_⟩
    · simp only [body]
      refine .step skipNewlines_forward fun _ => .peek fun t =>
        .ite (fun _ => .refl _) fun notEnd => .ite (fun _ => .refl _) fun _ => ?_
      intro st within ht
      have present : tokenAt tokens st.pos ≠ .eof := by
        rw [ht]
        simpa using notEnd
      have inside := lt_size_of_tokenAt present
      obtain ⟨F, rfl⟩ : ∃ F, f = F + 2 := ⟨f - 2, by omega⟩
      rw [run_bind, run_bind, get_run]
      dsimp only
      refine run_bind_of_moves ((AgreeWithin.tryCatch (statement_ih.mono fun _ _ => by omega)
        (body_forward _).2.1 fun _ => .refl _) st (by omega)) ?_ fun parsed st' moved =>
          body_ih _ _ st' (by omega)
      refine tryCatch_moves (body_forward _).2.1
        (fun a st' run => statement_advancesAt F t tokens st a st' ht run) fun e st' later => ?_
      -- a statement that failed where it started is recovered from by reading that token
      rw [run_bind, record_run]
      dsimp only
      rw [run_bind, get_run]
      dsimp only
      split
      · next unmoved =>
        exact advance_bind_moves (by simpa using unmoved) inside fun _ =>
          .bind skipStatement_forward fun _ => .pure' _
      · next moved =>
        have : st'.pos ≠ st.pos := by simpa using moved
        exact (Forward.bind skipStatement_forward fun _ => .pure' _).lt (by dsimp only; omega)
    · simp only [statement]
      refine .step offset_forward fun at_ => .peek fun t => ?_
      split
      · refine .pure_bind (.ite (fun _ => .of (through_ih.mono fun _ _ => by omega)) fun _ =>
          .advance (by simp) fun _ => ?_)
        exact callAfterName_agree _ _ ((body_forward _).1 _ _)
          ((body_ih _ _).mono fun _ _ => by omega)
      · exact .of (.step (unexpected_forward _) fun _ => .throw_bind)
    · simp only [through]
      refine .peek fun t => ?_
      split
      · exact .refl _
      · exact .refl _
      · next notEof _ =>
        exact .ite (fun _ => .advance notEof fun _ => .step skipBlockParams_forward fun _ =>
            (body_ih _ _).mono fun _ _ => by omega)
          fun _ => .advance notEof fun _ => through_ih.mono fun _ _ => by omega

/-! ## The fuel the parser passes -/

/-- Run with `budget` fuel, `L` gives what it gives with any more. -/
def BudgetSuffices {β γ : Type} (tokens : Array Spanned) (budget : Nat)
    (L : Nat → β → Parser γ) : Prop :=
  ∀ b st k, L (budget + k) b tokens st = L budget b tokens st

namespace BudgetSuffices

variable {β γ : Type} {tokens : Array Spanned} {L : Nat → β → Parser γ}

/-- A loop that settles within two rounds for each token and two more runs
to completion on the parser's budget. -/
lemma of_settles {c : Nat}
    (h : SettlesWithin (fun x : β × ParserState => 2 * (tokens.size - x.2.pos) + c)
      (fun f x => L f x.1 tokens x.2)) (small : c ≤ 2) :
    BudgetSuffices tokens (2 * tokens.size + 2) L :=
  fun b st k => h (b, st) _ (by dsimp only; omega) k

lemma of_agree {w c budget : Nat} (h : ∀ f k b, AgreeWithin tokens w c f (L (f + k) b) (L f b))
    (enough : w * tokens.size + c ≤ budget) : BudgetSuffices tokens budget L := fun b st k =>
  h budget k b st (weighted_le_of_le (Nat.zero_le st.pos) (by rw [Nat.sub_zero]; exact enough))

end BudgetSuffices

/-- Every loop of the parser runs on a budget that never binds: the inner
loops on the parser's `budget`, the statements of the whole input on the
fuel `parseCalls` gives them. -/
structure FuelSuffices (tokens : Array Spanned) : Prop where
  newlines : BudgetSuffices tokens (2 * tokens.size + 2) fun f (_ : Unit) => skipNewlinesLoop f
  statement : BudgetSuffices tokens (2 * tokens.size + 2) skipStatementLoop
  blockParams : BudgetSuffices tokens (2 * tokens.size + 2) fun f (_ : Unit) => skipBlockParamsLoop f
  braced : BudgetSuffices tokens (2 * tokens.size + 2)
    fun f (x : Nat × List Token) => skipBracedLoop f x.1 x.2
  chain : BudgetSuffices tokens (2 * tokens.size + 2) fun f (_ : Unit) => skipChainLoop f
  value : BudgetSuffices tokens (2 * tokens.size + 2) fun f (_ : Unit) => value f
  arguments : ∀ inParens, BudgetSuffices tokens (2 * tokens.size + 2)
    fun f (x : List Value × List (String × Value)) => argumentsLoop inParens f x.1 x.2
  calls : BudgetSuffices tokens (3 * tokens.size + 8) fun f (_ : Unit) => body f false []

theorem fuelSuffices (tokens : Array Spanned) : FuelSuffices tokens where
  newlines := .of_settles (skipNewlinesLoop_settles tokens) le_rfl
  statement := .of_settles (skipStatementLoop_settles tokens) le_rfl
  blockParams := .of_settles (skipBlockParamsLoop_settles tokens) le_rfl
  braced := .of_settles (skipBracedLoop_settles tokens) le_rfl
  chain := .of_settles (skipChainLoop_settles tokens) le_rfl
  value := .of_agree (fun f k _ => (value_settles tokens f k).1) (by omega)
  arguments inParens := .of_settles (argumentsLoop_settles tokens inParens) le_rfl
  calls := .of_agree (fun f k _ => (body_settles tokens f k).1 false []) (by omega)

end Rails.Parser

end Schemata
