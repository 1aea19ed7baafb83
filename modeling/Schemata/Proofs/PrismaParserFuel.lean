import Mathlib
import Schemata.Proofs.Fuel
import Schemata.Proofs.PrismaLexerFuel
import Schemata.Proofs.PrismaParserRuns

/-!
# The Prisma parser's loops run to completion

Every loop of the Prisma parser is started with the budget of its environment,
two rounds for each token and eight more in `parseDocument`. This module
proves that the budget never binds (`fuelSuffices`) when the tokens end with
the end token, as the lexer's always do (`parseDocument_fuelSuffices`): each
loop gives the same run under any more fuel.

The argument is the weighted agreement of the schema file parser:
`AgreeWithin env w c n p q` says that `p` and `q` run alike from every
position where `w` rounds for each token left, and `c` more, fit in `n`. Past
the last token the parsers see the end token again, and there every loop ends
within its `c` rounds, by returning or by failing on both sides alike. Before
it, each round pays for the next by moving past a present token: by reading
it, through a field that always reads its name, or, in the block loop,
through a block that reads its keyword or a recovery that reads past a token
that opens no block.
-/

namespace Schemata

namespace Prisma

namespace Parser

/-! ## Parsers that agree near the end -/

/-- In `env`, `p` and `q` give the same run from every position whose tokens
left, each counted `w` times, plus `c` are at most `n`. -/
def AgreeWithin {α : Type} (env : ParserEnv) (w c n : Nat) (p q : Parser α) : Prop :=
  ∀ pos, w * (env.tokens.size - pos) + c ≤ n → p env pos = q env pos

/-- The same, from the positions whose token is `t`. -/
def AgreeWithinAt {α : Type} (env : ParserEnv) (w c n : Nat) (t : Token) (p q : Parser α) : Prop :=
  ∀ pos, w * (env.tokens.size - pos) + c ≤ n → tokenAt env pos = t → p env pos = q env pos

namespace AgreeWithin

variable {α β : Type} {env : ParserEnv} {w c n : Nat}

lemma refl (p : Parser α) : AgreeWithin env w c n p p := fun _ _ => rfl

lemma mono {c' n' : Nat} {p q : Parser α} (h : AgreeWithin env w c n p q)
    (le : ∀ d, w * d + c' ≤ n' → w * d + c ≤ n) : AgreeWithin env w c' n' p q :=
  fun pos within => h pos (le _ within)

/-- Runs that agree stay in agreement past a parser that never moves back. -/
lemma bind {x x' : Parser α} {g g' : α → Parser β} (hx : AgreeWithin env w c n x x')
    (forward : Forward x) (h : ∀ a, AgreeWithin env w c n (g a) (g' a)) :
    AgreeWithin env w c n (x >>= g) (x' >>= g') := by
  intro pos within
  have moved := forward env pos
  rw [run_bind, run_bind, ← hx pos within]
  split
  · next a pos' hr =>
    rw [hr] at moved
    exact h a pos' (weighted_le_of_le moved within)
  · rfl

/-- The same parser on both sides. -/
lemma step {x : Parser α} {g g' : α → Parser β} (forward : Forward x)
    (h : ∀ a, AgreeWithin env w c n (g a) (g' a)) :
    AgreeWithin env w c n (x >>= g) (x >>= g') :=
  .bind (.refl x) forward h

lemma peek {g g' : Token → Parser α} (h : ∀ t, AgreeWithinAt env w c n t (g t) (g' t)) :
    AgreeWithin env w c n (Parser.peek >>= g) (Parser.peek >>= g') := fun pos within =>
  h _ pos within rfl

lemma current {g g' : Spanned → Parser α}
    (h : ∀ s, AgreeWithinAt env w c n s.token (g s) (g' s)) :
    AgreeWithin env w c n (Parser.current >>= g) (Parser.current >>= g') := fun pos within =>
  h _ pos within rfl

lemma ite {p p' q q' : Parser α} {b : Prop} [Decidable b] (hp : b → AgreeWithin env w c n p p')
    (hq : ¬b → AgreeWithin env w c n q q') :
    AgreeWithin env w c n (if b then p else q) (if b then p' else q') := by
  split
  · next h => exact hp h
  · next h => exact hq h

/-- Reading a token that may be the last: past a present token `w` rounds
fewer are left, and at the end token both sides do the same. -/
lemma advance_match (closed : Closed env) {g g' : Spanned → Parser α}
    (h : ∀ s, s.token ≠ .eof → AgreeWithin env w c (n - w) (g s) (g' s))
    (atEnd : ∀ s, s.token = .eof → g s = g' s) :
    AgreeWithin env w c n (Parser.advance >>= g) (Parser.advance >>= g') := by
  intro pos within
  rw [run_bind, run_bind, advance_run]
  dsimp only
  by_cases ended : tokenAt env pos = .eof
  · rw [atEnd _ ended]
  · have inside := lt_size_of_tokenAt closed ended
    have := weighted_left_succ (w := w) inside
    exact h _ ended _ (by omega)

end AgreeWithin

namespace AgreeWithinAt

variable {α β : Type} {env : ParserEnv} {w c n : Nat} {t : Token}

lemma of {p q : Parser α} (h : AgreeWithin env w c n p q) : AgreeWithinAt env w c n t p q :=
  fun pos within _ => h pos within

lemma refl (p : Parser α) : AgreeWithinAt env w c n t p p := fun _ _ _ => rfl

lemma mono {c' n' : Nat} {p q : Parser α} (h : AgreeWithinAt env w c n t p q)
    (le : ∀ d, w * d + c' ≤ n' → w * d + c ≤ n) : AgreeWithinAt env w c' n' t p q :=
  fun pos within ht => h pos (le _ within) ht

lemma ite {p p' q q' : Parser α} {b : Prop} [Decidable b]
    (hp : b → AgreeWithinAt env w c n t p p') (hq : ¬b → AgreeWithinAt env w c n t q q') :
    AgreeWithinAt env w c n t (if b then p else q) (if b then p' else q') := by
  split
  · next h => exact hp h
  · next h => exact hq h

lemma peek_bind {g g' : Token → Parser α} (h : AgreeWithinAt env w c n t (g t) (g' t)) :
    AgreeWithinAt env w c n t (Parser.peek >>= g) (Parser.peek >>= g') :=
  fun pos within ht => by
    have run := h pos within ht
    rw [run_bind, run_bind, peek_run]
    dsimp only
    rw [ht]
    exact run

/-- Past a present token, `w` rounds fewer are left. -/
lemma skip (closed : Closed env) {g g' : Unit → Parser α} (present : t ≠ .eof)
    (h : ∀ u, AgreeWithin env w c (n - w) (g u) (g' u)) :
    AgreeWithinAt env w c n t (Parser.skip >>= g) (Parser.skip >>= g') := by
  intro pos within ht
  have inside := lt_size_of_tokenAt closed (ht ▸ present)
  rw [run_bind, run_bind, skip_run]
  have := weighted_left_succ (w := w) inside
  exact h () (pos + 1) (by omega)

lemma get_bind {g g' : Nat → Parser α} (h : ∀ p, AgreeWithinAt env w c n t (g p) (g' p)) :
    AgreeWithinAt env w c n t (get >>= g) (get >>= g') := fun pos within ht => h pos pos within ht

lemma read_bind {g g' : ParserEnv → Parser α} (h : ∀ e, AgreeWithinAt env w c n t (g e) (g' e)) :
    AgreeWithinAt env w c n t (read >>= g) (read >>= g') := fun pos within ht => h env pos within ht

/-- A step that fails at the token leaves nothing after it to compare. -/
lemma fails_bind {x : Parser β} {g g' : β → Parser α}
    (fails : ∀ pos, tokenAt env pos = t → ∃ e pos', x env pos = (.error e, pos')) :
    AgreeWithinAt env w c n t (x >>= g) (x >>= g') := by
  intro pos _ ht
  obtain ⟨e, pos', failed⟩ := fails pos ht
  rw [run_bind, run_bind, failed]

/-- A step that moves past a present token pays `w` for what follows it. -/
lemma moving_bind (closed : Closed env) {x : Parser β} {g g' : β → Parser α} (present : t ≠ .eof)
    (moves : ∀ pos, tokenAt env pos = t → pos < (x env pos).2)
    (h : ∀ b, AgreeWithin env w c (n - w) (g b) (g' b)) :
    AgreeWithinAt env w c n t (x >>= g) (x >>= g') := by
  intro pos within ht
  have inside := lt_size_of_tokenAt closed (ht ▸ present)
  have moved := moves pos ht
  rw [run_bind, run_bind]
  split
  · next b pos' hr =>
    rw [hr] at moved
    have := weighted_left_succ (w := w) inside
    exact h b pos' (weighted_le_of_le (show pos + 1 ≤ pos' from moved) (by omega))
  · rfl

lemma moves_bind (closed : Closed env) {x : Parser β} {g g' : β → Parser α} (present : t ≠ .eof)
    (moves : Moves x) (h : ∀ b, AgreeWithin env w c (n - w) (g b) (g' b)) :
    AgreeWithinAt env w c n t (x >>= g) (x >>= g') :=
  moving_bind closed present (fun pos _ => moves env pos) h

end AgreeWithinAt

/-- A loop settles once each round with more fuel runs as with less, given that
the later rounds do; its need is `w` rounds per token left plus `c`. -/
theorem settles_of_round {β γ : Type} {L : Nat → β → Parser γ} (env : ParserEnv)
    (w c : Nat) (positive : 0 < c)
    (round : ∀ f k b, (∀ b', AgreeWithin env w c f (L (f + k) b') (L f b')) →
      AgreeWithin env w c (f + 1) (L (f + k + 1) b) (L (f + 1) b)) :
    SettlesWithin (fun x : β × Nat => w * (env.tokens.size - x.2) + c)
      (fun f x => L f x.1 env x.2) := by
  refine SettlesWithin.of_round (fun x ended => by omega) (fun f ⟨b, pos⟩ enough later k => ?_)
  rw [Nat.add_right_comm]
  exact round f k b (fun b' pos' within => later (b', pos') within k) pos enough

section Loops

variable (env : ParserEnv) (closed : Closed env)
include closed

theorem docLines_settles :
    SettlesWithin (fun x : List String × Nat => 2 * (env.tokens.size - x.2) + 1)
      (fun f x => docLines f x.1 env x.2) := by
  refine settles_of_round env 2 1 (by omega) fun f k acc later => ?_
  simp only [docLines]
  refine .peek fun t => ?_
  split
  · exact .skip closed (by simp) fun _ => (later _).mono fun _ _ => by omega
  · exact .refl _

/-- Arguments, values and arrays settle together: a value takes one round for
its first token, an argument list and an array one for each item and the
separator after it. -/
theorem args_settles :
    ∀ f k, (∀ acc, AgreeWithin env 2 2 f (args (f + k) acc) (args f acc)) ∧
      AgreeWithin env 2 1 f (expr (f + k)) (expr f) ∧
      ∀ acc, AgreeWithin env 2 2 f (items (f + k) acc) (items f acc)
  | 0, _ => ⟨fun _ _ within => absurd within (by omega), fun _ within => absurd within (by omega),
      fun _ _ within => absurd within (by omega)⟩
  | f + 1, k => by
    obtain ⟨args_ih, expr_ih, items_ih⟩ := args_settles f k
    rw [Nat.add_right_comm]
    refine ⟨fun acc => ?_, ?_, fun acc => ?_⟩
    · simp only [args]
      refine .step peek_forward fun _ => .ite (fun _ => .refl _) fun _ => ?_
      refine .step peek_forward fun _ => .step peekSecond_forward fun _ => ?_
      -- a label and its colon are read alike on both sides; the value and the
      -- separator after it pay for the next round
      split
      all_goals
        repeat' first
          | refine .step skip_forward fun _ => ?_
          | refine .step (.pure' _) fun _ => ?_
        refine .bind (expr_ih.mono fun _ _ => by omega) (args_forward _).2.1 fun value => ?_
        refine .advance_match closed (fun s present => ?_) fun s ended => by simp only [ended]
        split
        · exact (args_ih _).mono fun _ _ => by omega
        · exact .refl _
        · exact .refl _
    · simp only [expr]
      refine .advance_match closed (fun s present => ?_) fun s ended => by simp only [ended]
      split
      · exact .refl _
      · exact .refl _
      · refine .peek fun t => .ite (fun paren => ?_) fun _ => .refl _
        have present : t ≠ .eof := by
          rintro rfl
          simp at paren
        exact .skip closed present fun _ =>
          .bind ((args_ih []).mono fun _ _ => by omega) ((args_forward _).1 _) fun _ => .refl _
      · exact (items_ih []).mono fun _ _ => by omega
      · exact .refl _
    · simp only [items]
      refine .step peek_forward fun _ => .ite (fun _ => .refl _) fun _ => ?_
      refine .bind (expr_ih.mono fun _ _ => by omega) (args_forward _).2.1 fun item => ?_
      refine .advance_match closed (fun s present => ?_) fun s ended => by simp only [ended]
      split
      · exact (items_ih _).mono fun _ _ => by omega
      · exact .refl _
      · exact .refl _

theorem dottedName_settles :
    SettlesWithin (fun x : String × Nat => 2 * (env.tokens.size - x.2) + 1)
      (fun f x => dottedName f x.1 env x.2) := by
  refine settles_of_round env 2 1 (by omega) fun f k name later => ?_
  simp only [dottedName]
  refine .peek fun t => .ite (fun dot => ?_) fun _ => .refl _
  obtain rfl : t = .dot := eq_of_beq dot
  exact .skip closed (by simp) fun _ => .step expectIdent_forward fun _ =>
    (later _).mono fun _ _ => by omega

theorem fieldAttributes_settles :
    SettlesWithin (fun x : List Attribute × Nat => 2 * (env.tokens.size - x.2) + 1)
      (fun f x => fieldAttributes f x.1 env x.2) := by
  refine settles_of_round env 2 1 (by omega) fun f k acc later => ?_
  simp only [fieldAttributes]
  refine .peek fun t => .ite (fun isAt => ?_) fun _ => .refl _
  obtain rfl : t = .atSign := eq_of_beq isAt
  exact .skip closed (by simp) fun _ => .step attr_forward fun _ =>
    (later _).mono fun _ _ => by omega

/-- A model's round reads a block attribute's `@@`, or a field, which always
reads its name; at the end token the field fails. -/
theorem modelBody_settles :
    SettlesWithin (fun x : (List Field × List Attribute) × Nat => 2 * (env.tokens.size - x.2) + 1)
      (fun f x => modelBody f x.1.1 x.1.2 env x.2) := by
  refine settles_of_round (L := fun f (x : List Field × List Attribute) => modelBody f x.1 x.2)
    env 2 1 (by omega) fun f k ⟨fs, as⟩ later => ?_
  simp only [modelBody]
  refine .step takeDoc_forward fun doc => .peek fun t => ?_
  split
  · exact .refl _
  · exact .skip closed (by simp) fun _ => .step attr_forward fun _ =>
      (later (_, _)).mono fun _ _ => by omega
  · by_cases ended : t = .eof
    · exact .fails_bind fun _ here => field_fails_at_eof doc (here.trans ended)
    · exact .moves_bind closed ended (field_moves doc) fun _ =>
        (later (_, _)).mono fun _ _ => by omega

theorem valueAttributes_settles :
    SettlesWithin (fun x : String × Nat => 2 * (env.tokens.size - x.2) + 1)
      (fun f x => valueAttributes f x.1 env x.2) := by
  refine settles_of_round env 2 1 (by omega) fun f k stored later => ?_
  simp only [valueAttributes]
  refine .peek fun t => .ite (fun isAt => ?_) fun _ => .refl _
  obtain rfl : t = .atSign := eq_of_beq isAt
  exact .skip closed (by simp) fun _ => .step attr_forward fun _ =>
    (later _).mono fun _ _ => by omega

theorem enumBody_settles :
    SettlesWithin (fun x : (List String × Option String) × Nat => 2 * (env.tokens.size - x.2) + 1)
      (fun f x => enumBody f x.1.1 x.1.2 env x.2) := by
  refine settles_of_round (L := fun f (x : List String × Option String) => enumBody f x.1 x.2)
    env 2 1 (by omega) fun f k ⟨vs, mapped⟩ later => ?_
  simp only [enumBody]
  refine .step takeDoc_forward fun _ => .current fun s => ?_
  split
  · exact .refl _
  · next doubleAt =>
    rw [doubleAt]
    exact .skip closed (by simp) fun _ => .step attr_forward fun _ =>
      (later (_, _)).mono fun _ _ => by omega
  · next value ident =>
    rw [ident]
    exact .skip closed (by simp) fun _ => .step budget_forward fun _ =>
      .step (valueAttributes_forward _ _) fun _ => (later (_, _)).mono fun _ _ => by omega
  · exact .refl _

theorem skipBraces_settles :
    SettlesWithin (fun x : Nat × Nat => 2 * (env.tokens.size - x.2) + 1)
      (fun f x => skipBraces f x.1 env x.2) := by
  refine settles_of_round env 2 1 (by omega) fun f k depth later => ?_
  simp only [skipBraces]
  refine .advance_match closed (fun s present => ?_) fun s ended => by simp only [ended]
  split
  · exact (later _).mono fun _ _ => by omega
  · exact .ite (fun _ => .refl _) fun _ => (later _).mono fun _ _ => by omega
  · exact .refl _
  · exact (later _).mono fun _ _ => by omega

theorem recover_settles :
    SettlesWithin (fun x : Unit × Nat => 2 * (env.tokens.size - x.2) + 1)
      (fun f x => recover f env x.2) := by
  refine settles_of_round (L := fun f (_ : Unit) => recover f) env 2 1 (by omega)
    fun f k _ later => ?_
  simp only [recover]
  refine .peek fun t => .ite (fun _ => .refl _) fun notEnd => ?_
  have present : t ≠ .eof := fun ended => notEnd (by simp [ended])
  exact .get_bind fun _ => .read_bind fun _ => .peek_bind (.ite (fun _ => .refl _) fun _ =>
    .skip closed present fun _ => (later ()).mono fun _ _ => by omega)

/-- A round of the block loop reads a block, or recovers from a failed one, and
either way moves past the token it started at: a block reads its keyword, and
a failed block that read nothing stood at a token that opens no block, which
the recovery reads past. -/
theorem blocks_settles (positive : 0 < env.budget) :
    SettlesWithin (fun x : (Document × List ParseError) × Nat => 2 * (env.tokens.size - x.2) + 1)
      (fun f x => blocks f x.1.1 x.1.2 env x.2) := by
  refine settles_of_round (L := fun f (x : Document × List ParseError) => blocks f x.1 x.2)
    env 2 1 (by omega) fun f k ⟨d, es⟩ later => ?_
  simp only [blocks]
  refine .step takeDoc_forward fun doc => .peek fun t => .ite (fun _ => .refl _) fun notEnd => ?_
  have present : t ≠ .eof := fun ended => notEnd (by simp [ended])
  refine .moving_bind closed present (fun pos here => ?_) fun ⟨d', es'⟩ =>
    (later (d', es')).mono fun _ _ => by omega
  refine tryCatch_moves (fun _ => .bind budget_forward fun _ =>
    .bind (recover_forward _) fun _ => .pure' _) ?_
  by_cases keyword : blockKeywords.any (tokenAt env pos).isIdent = true
  · exact .inl (lt_run_bind (block_moves_of_keyword doc d keyword) fun _ => .pure' _)
  · have other : blockKeywords.any (tokenAt env pos).isIdent = false := by simpa using keyword
    obtain ⟨e, failed⟩ := block_of_not_keyword doc d other
    refine .inr ⟨⟨e, by rw [run_bind, failed]⟩, fun e => ?_⟩
    obtain ⟨b, hb⟩ : ∃ b, env.budget = b + 1 := ⟨env.budget - 1, by omega⟩
    rw [run_bind, budget_run]
    dsimp only
    rw [hb]
    exact lt_run_bind (recover_moves b (here ▸ present) other) fun _ => .pure' _

end Loops

/-! ## The fuel the parser passes -/

/-- Run with the budget of `env`, `L` gives what it gives with any more. -/
def BudgetSuffices {β γ : Type} (env : ParserEnv) (L : Nat → β → Parser γ) : Prop :=
  ∀ b pos k, L (env.budget + k) b env pos = L env.budget b env pos

namespace BudgetSuffices

variable {β γ : Type} {env : ParserEnv} {L : Nat → β → Parser γ}

lemma of_settles {c : Nat}
    (h : SettlesWithin (fun x : β × Nat => 2 * (env.tokens.size - x.2) + c)
      (fun f x => L f x.1 env x.2)) (enough : 2 * env.tokens.size + c ≤ env.budget) :
    BudgetSuffices env L :=
  fun b pos k => h (b, pos) _ (by dsimp only; omega) k

lemma of_agree {w c : Nat} (h : ∀ f k b, AgreeWithin env w c f (L (f + k) b) (L f b))
    (enough : w * env.tokens.size + c ≤ env.budget) : BudgetSuffices env L := fun b pos k =>
  h _ k b pos (weighted_le_of_le (Nat.zero_le pos) (by rw [Nat.sub_zero]; exact enough))

end BudgetSuffices

/-- Every loop of the parser runs on the budget of its environment without
running out: the block loop on the budget it is started with, the others on
the budget they read. -/
structure FuelSuffices (env : ParserEnv) : Prop where
  docs : BudgetSuffices env docLines
  arguments : BudgetSuffices env args
  names : BudgetSuffices env dottedName
  fieldAttrs : BudgetSuffices env fieldAttributes
  models : BudgetSuffices env fun f (x : List Field × List Attribute) => modelBody f x.1 x.2
  valueAttrs : BudgetSuffices env valueAttributes
  enums : BudgetSuffices env fun f (x : List String × Option String) => enumBody f x.1 x.2
  braces : BudgetSuffices env skipBraces
  recovery : BudgetSuffices env fun f (_ : Unit) => recover f
  blockLoop : BudgetSuffices env fun f (x : Document × List ParseError) => blocks f x.1 x.2

/-- With tokens that end with the end token, two rounds for each token and two
more are budget enough. -/
theorem fuelSuffices (env : ParserEnv) (closed : Closed env)
    (enough : 2 * env.tokens.size + 2 ≤ env.budget) : FuelSuffices env where
  docs := .of_settles (docLines_settles env closed) (by omega)
  arguments := .of_agree (fun f k _ => (args_settles env closed f k).1 _) enough
  names := .of_settles (dottedName_settles env closed) (by omega)
  fieldAttrs := .of_settles (fieldAttributes_settles env closed) (by omega)
  models := .of_settles (modelBody_settles env closed) (by omega)
  valueAttrs := .of_settles (valueAttributes_settles env closed) (by omega)
  enums := .of_settles (enumBody_settles env closed) (by omega)
  braces := .of_settles (skipBraces_settles env closed) (by omega)
  recovery := .of_settles (recover_settles env closed) (by omega)
  blockLoop := .of_settles (blocks_settles env closed (by omega)) (by omega)

end Parser

/-- The environment `parseDocument` builds from the lexer's tokens meets the
budget's needs. -/
theorem parseDocument_fuelSuffices {text : String} {tokens : Array Spanned}
    (lexed : tokenize text = .ok tokens) :
    Parser.FuelSuffices { tokens, budget := 2 * tokens.size + 8 } := by
  refine Parser.fuelSuffices _ ?_ (by dsimp only; omega)
  simp only [tokenize, Except.map] at lexed
  split at lexed
  · cases lexed
  · next list read =>
    cases lexed
    intro s last
    have ends := Lexer.tokensFrom_ends_with_eof _ _ _ _ _ read
    rw [List.back?_toArray, Option.mem_def] at last
    rw [last] at ends
    exact Option.some.inj ends

end Prisma

end Schemata
