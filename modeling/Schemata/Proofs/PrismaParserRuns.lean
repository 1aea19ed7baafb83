import Mathlib
import Schemata.Prisma.Parser

/-!
# How far the Prisma parsers move

A Prisma parser runs over the token array from a position to a later one, and
fails or succeeds; reading a token always moves on by one, even past the last
token, where the parsers see the last token again. When the tokens end with
the end token (`Closed`), past the last one every parser sees the end token.

This module proves, for every parser the block loops call, that it never moves
back (`Forward`), failing or not, and for the steps the block loops rely on to
pay for their rounds, that they move on: a field always reads its name
(`field_moves`) and fails at the end token, a block reads its keyword or fails
where it stands at any other token, and the recovery after a failed block
reads past a token that opens no block (`recover_moves`).
-/

namespace Schemata

namespace Prisma.Parser

/-! ## Runs of a parser -/

section Runs

variable {α β : Type} (env : ParserEnv) (pos : Nat)

lemma run_bind (x : Parser α) (g : α → Parser β) :
    (x >>= g) env pos = match x env pos with
      | (.ok a, pos') => g a env pos'
      | (.error e, pos') => (.error e, pos') := by
  simp only [bind, ExceptT.bind, ExceptT.mk, ExceptT.bindCont, ReaderT.bind, StateT.bind]
  rcases x env pos with ⟨_ | _, p⟩ <;> rfl

@[simp] lemma read_run : (read : Parser ParserEnv) env pos = (.ok env, pos) := rfl

@[simp] lemma get_run : (get : Parser Nat) env pos = (.ok pos, pos) := rfl

@[simp] lemma pure_run (a : α) : (pure a : Parser α) env pos = (.ok a, pos) := rfl

@[simp] lemma throw_run (e : ParseError) : (throw e : Parser α) env pos = (.error e, pos) := rfl

lemma tryCatch_run (x : Parser α) (h : ParseError → Parser α) :
    tryCatch x h env pos = match x env pos with
      | (.ok a, pos') => (.ok a, pos')
      | (.error e, pos') => h e env pos' := by
  show ExceptT.tryCatch x h env pos = _
  simp only [ExceptT.tryCatch, ExceptT.mk, bind, ReaderT.bind, StateT.bind]
  rcases x env pos with ⟨_ | _, p⟩ <;> rfl

end Runs

/-- The token read at a position: past the last, the last token again. -/
def spannedAt (env : ParserEnv) (pos : Nat) : Spanned :=
  env.tokens[pos]?.getD (env.tokens.back?.getD ⟨.eof, 0⟩)

/-- The token at a position. -/
def tokenAt (env : ParserEnv) (pos : Nat) : Token := (spannedAt env pos).token

lemma current_run (env : ParserEnv) (pos : Nat) : current env pos = (.ok (spannedAt env pos), pos) :=
  rfl

lemma advance_run (env : ParserEnv) (pos : Nat) :
    advance env pos = (.ok (spannedAt env pos), pos + 1) := rfl

lemma skip_run (env : ParserEnv) (pos : Nat) : skip env pos = (.ok (), pos + 1) := rfl

/-- The tokens end with the end token, so past the last one the parsers see
the end token: the lexer's tokens always do. -/
def Closed (env : ParserEnv) : Prop := ∀ s ∈ env.tokens.back?, s.token = .eof

lemma tokenAt_of_le {env : ParserEnv} (closed : Closed env) {pos : Nat} (past : env.tokens.size ≤ pos) :
    tokenAt env pos = .eof := by
  simp only [tokenAt, spannedAt, Array.getElem?_eq_none past, Option.getD_none]
  cases last : env.tokens.back? with
  | none => rfl
  | some s => exact closed s last

lemma lt_size_of_tokenAt {env : ParserEnv} (closed : Closed env) {pos : Nat}
    (present : tokenAt env pos ≠ .eof) : pos < env.tokens.size :=
  Nat.lt_of_not_le fun past => present (tokenAt_of_le closed past)

/-! ## Parsers that move forward -/

/-- A parser that never moves back, whether it succeeds or fails. -/
def Forward {α : Type} (p : Parser α) : Prop :=
  ∀ env pos, pos ≤ (p env pos).2

namespace Forward

variable {α β : Type}

lemma pure' (a : α) : Forward (pure a : Parser α) := fun _ pos => le_refl pos

lemma throw (e : ParseError) : Forward (throw e : Parser α) := fun _ pos => le_refl pos

lemma bind {x : Parser α} {g : α → Parser β} (hx : Forward x) (hg : ∀ a, Forward (g a)) :
    Forward (x >>= g) := by
  intro env pos
  have := hx env pos
  rw [run_bind]
  split
  · next a p hr => rw [hr] at this; exact le_trans this (hg a env p)
  · next e p hr => rw [hr] at this; exact this

lemma ite {c : Prop} [Decidable c] {p q : Parser α} (hp : Forward p) (hq : Forward q) :
    Forward (if c then p else q) := by
  split
  · exact hp
  · exact hq

lemma get : Forward (get : Parser Nat) := fun _ pos => le_refl pos

lemma read : Forward (read : Parser ParserEnv) := fun _ pos => le_refl pos

lemma tryCatch {x : Parser α} {h : ParseError → Parser α} (hx : Forward x)
    (hh : ∀ e, Forward (h e)) : Forward (tryCatch x h) := by
  intro env pos
  have := hx env pos
  rw [tryCatch_run]
  split
  · next a p hr => rw [hr] at this; exact this
  · next e p hr => rw [hr] at this; exact le_trans this (hh e env p)

/-- A run that starts past a position ends past it. -/
lemma lt {p : Parser α} (hp : Forward p) {env : ParserEnv} {pos start : Nat}
    (before : start < pos) : start < (p env pos).2 :=
  Nat.lt_of_lt_of_le before (hp env pos)

end Forward

/-! ## The parsers of blocks -/

theorem budget_forward : Forward budget := fun _ pos => le_refl pos

theorem current_forward : Forward current := fun _ pos => le_refl pos

theorem peek_forward : Forward peek := fun _ pos => le_refl pos

theorem peekSecond_forward : Forward peekSecond := fun _ pos => le_refl pos

theorem checkIdent_forward (w : String) : Forward (checkIdent w) := fun _ pos => le_refl pos

theorem advance_forward : Forward advance := fun _ pos => Nat.le_succ pos

theorem skip_forward : Forward skip := fun _ pos => Nat.le_succ pos

theorem exhausted_forward {α : Type} : Forward (exhausted : Parser α) := fun _ pos => le_refl pos

theorem expectIdent_forward : Forward expectIdent :=
  .bind advance_forward fun next => by
    split
    · exact .pure' _
    · exact .throw _

theorem expect_forward (t : Token) (what : String) : Forward (expect t what) :=
  .bind advance_forward fun _ => .ite (.throw _) (.pure' _)

theorem docLines_forward : ∀ f acc, Forward (docLines f acc)
  | 0, _ => .pure' _
  | f + 1, acc => .bind peek_forward fun t => by
    split
    · exact .bind skip_forward fun _ => docLines_forward f _
    · exact .pure' _

theorem takeDoc_forward : Forward takeDoc :=
  .bind budget_forward fun _ => .bind (docLines_forward _ _) fun _ => .pure' _

theorem args_forward : ∀ f, (∀ acc, Forward (args f acc)) ∧ Forward (expr f) ∧
    ∀ acc, Forward (items f acc)
  | 0 => ⟨fun _ => exhausted_forward, exhausted_forward, fun _ => exhausted_forward⟩
  | f + 1 => by
    obtain ⟨args_f, expr_f, items_f⟩ := args_forward f
    -- each do-block below is a chain of binds, branches and matches over forward steps
    refine ⟨fun acc => ?_, ?_, fun acc => ?_⟩
    all_goals
      first
        | simp only [args]
        | simp only [expr]
        | simp only [items]
      repeat' first
        | with_reducible exact .pure' _
        | with_reducible exact .throw _
        | with_reducible exact peek_forward
        | with_reducible exact peekSecond_forward
        | with_reducible exact advance_forward
        | with_reducible exact skip_forward
        | with_reducible exact args_f _
        | with_reducible exact expr_f
        | with_reducible exact items_f _
        | with_reducible refine .bind ?_ fun _ => ?_
        | with_reducible refine .ite ?_ ?_
        | split

theorem dottedName_forward : ∀ f name, Forward (dottedName f name)
  | 0, _ => .pure' _
  | f + 1, _ => .bind peek_forward fun _ =>
    .ite (.bind skip_forward fun _ => .bind expectIdent_forward fun _ => dottedName_forward f _)
      (.pure' _)

theorem attr_forward : Forward attr :=
  .bind budget_forward fun _ => .bind expectIdent_forward fun _ =>
    .bind (dottedName_forward _ _) fun _ => .bind peek_forward fun _ =>
      .ite (.bind skip_forward fun _ => .bind budget_forward fun _ =>
          .bind ((args_forward _).1 _) fun _ => .pure' _)
        (.pure' _)

theorem fieldAttributes_forward : ∀ f acc, Forward (fieldAttributes f acc)
  | 0, _ => .pure' _
  | f + 1, _ => .bind peek_forward fun _ =>
    .ite (.bind skip_forward fun _ => .bind attr_forward fun _ => fieldAttributes_forward f _)
      (.pure' _)

/-- A parser that always moves, whether it succeeds or fails. -/
def Moves {α : Type} (p : Parser α) : Prop :=
  ∀ env pos, pos < (p env pos).2

lemma Moves.forward {α : Type} {p : Parser α} (h : Moves p) : Forward p :=
  fun env pos => Nat.le_of_lt (h env pos)

/-- A run whose first step ends past a position, and whose rest never moves
back, ends past it. -/
lemma lt_run_bind {α β : Type} {x : Parser α} {g : α → Parser β} {env : ParserEnv}
    {pos start : Nat} (hx : start < (x env pos).2) (hg : ∀ a, Forward (g a)) :
    start < ((x >>= g) env pos).2 := by
  rw [run_bind]
  split
  · next a p hr => rw [hr] at hx; exact (hg a).lt hx
  · next e p hr => rw [hr] at hx; exact hx

lemma Moves.bind {α β : Type} {x : Parser α} {g : α → Parser β} (hx : Moves x)
    (hg : ∀ a, Forward (g a)) : Moves (x >>= g) :=
  fun env pos => lt_run_bind (hx env pos) hg

theorem advance_moves : Moves advance := fun _ pos => Nat.lt_succ_self pos

theorem skip_moves : Moves skip := fun _ pos => Nat.lt_succ_self pos

theorem expectIdent_moves : Moves expectIdent :=
  .bind advance_moves fun next => by
    split
    · exact .pure' _
    · exact .throw _

/-- A field starts by reading its name, whatever follows. -/
theorem field_moves (doc : Option String) : Moves (field doc) := by
  simp only [field]
  refine .bind expectIdent_moves fun _ => ?_
  -- the rest of the field is a chain of binds, branches and matches over forward steps
  repeat' first
    | with_reducible exact .pure' _
    | with_reducible exact .throw _
    | with_reducible exact peek_forward
    | with_reducible exact advance_forward
    | with_reducible exact skip_forward
    | with_reducible exact budget_forward
    | with_reducible exact expectIdent_forward
    | with_reducible exact expect_forward _ _
    | with_reducible exact fieldAttributes_forward _ _
    | with_reducible refine .bind ?_ fun _ => ?_
    | with_reducible refine .ite ?_ ?_
    | split

theorem field_forward (doc : Option String) : Forward (field doc) := (field_moves doc).forward

theorem modelBody_forward : ∀ f fs as, Forward (modelBody f fs as)
  | 0, _, _ => .pure' _
  | f + 1, _, _ => .bind takeDoc_forward fun doc => .bind peek_forward fun t => by
    split
    · exact .pure' _
    · exact .bind skip_forward fun _ => .bind attr_forward fun _ => modelBody_forward f _ _
    · exact .bind (field_forward doc) fun _ => modelBody_forward f _ _

theorem model_forward (doc : Option String) : Forward (model doc) :=
  .bind expectIdent_forward fun _ => .bind (expect_forward _ _) fun _ =>
    .bind budget_forward fun _ => .bind (modelBody_forward _ _ _) fun _ =>
      .bind (expect_forward _ _) fun _ => .pure' _

theorem valueAttributes_forward : ∀ f stored, Forward (valueAttributes f stored)
  | 0, _ => .pure' _
  | f + 1, _ => .bind peek_forward fun _ =>
    .ite (.bind skip_forward fun _ => .bind attr_forward fun _ => valueAttributes_forward f _)
      (.pure' _)

theorem enumBody_forward : ∀ f vs mapped, Forward (enumBody f vs mapped)
  | 0, _, _ => .pure' _
  | f + 1, _, _ => .bind takeDoc_forward fun _ => .bind current_forward fun next => by
    split
    · exact .pure' _
    · exact .bind skip_forward fun _ => .bind attr_forward fun _ => enumBody_forward f _ _
    · exact .bind skip_forward fun _ => .bind budget_forward fun _ =>
        .bind (valueAttributes_forward _ _) fun _ => enumBody_forward f _ _
    · exact .throw _

theorem enumBlock_forward (doc : Option String) : Forward (enumBlock doc) :=
  .bind expectIdent_forward fun _ => .bind (expect_forward _ _) fun _ =>
    .bind budget_forward fun _ => .bind (enumBody_forward _ _ _) fun _ =>
      .bind (expect_forward _ _) fun _ => .pure' _

theorem skipBraces_forward : ∀ f depth, Forward (skipBraces f depth)
  | 0, _ => .pure' _
  | f + 1, _ => .bind advance_forward fun next => by
    split
    · exact skipBraces_forward f _
    · exact .ite (.pure' _) (skipBraces_forward f _)
    · exact .throw _
    · exact skipBraces_forward f _

theorem skipBlock_forward : Forward skipBlock :=
  .bind expectIdent_forward fun _ => .bind (expect_forward _ _) fun _ =>
    .bind budget_forward fun _ => skipBraces_forward _ _

theorem recover_forward : ∀ f, Forward (recover f)
  | 0 => .pure' _
  | f + 1 => .bind peek_forward fun _ => .ite (.pure' _) (.bind .get fun _ => .bind .read fun _ =>
      .bind peek_forward fun _ => .ite (.pure' _) (.bind skip_forward fun _ => recover_forward f))

theorem block_forward (doc : Option String) (d : Document) : Forward (block doc d) :=
  .bind (checkIdent_forward _) fun _ =>
    .ite (.bind skip_forward fun _ => .bind (model_forward _) fun _ => .pure' _)
      (.bind (checkIdent_forward _) fun _ =>
        .ite (.bind skip_forward fun _ => .bind (enumBlock_forward _) fun _ => .pure' _)
          (.bind peek_forward fun _ =>
            .ite (.bind skip_forward fun _ => .bind skipBlock_forward fun _ => .pure' _)
              (.bind current_forward fun _ => .throw _)))

theorem blocks_forward : ∀ f d es, Forward (blocks f d es)
  | 0, _, _ => .pure' _
  | f + 1, _, _ => .bind takeDoc_forward fun _ => .bind peek_forward fun _ =>
    .ite (.pure' _) (.bind (.tryCatch (.bind (block_forward _ _) fun _ => .pure' _)
      fun _ => .bind budget_forward fun _ => .bind (recover_forward _) fun _ => .pure' _)
      fun _ => blocks_forward f _ _)

/-! ## Parsers that read a token -/

lemma peek_run (env : ParserEnv) (pos : Nat) : peek env pos = (.ok (tokenAt env pos), pos) := rfl

lemma checkIdent_run (w : String) (env : ParserEnv) (pos : Nat) :
    checkIdent w env pos = (.ok ((tokenAt env pos).isIdent w), pos) := rfl

lemma budget_run (env : ParserEnv) (pos : Nat) : budget env pos = (.ok env.budget, pos) := rfl

/-- At the end token a field has no name to read. -/
theorem field_fails_at_eof (doc : Option String) {env : ParserEnv} {pos : Nat}
    (ended : tokenAt env pos = .eof) : ∃ e pos', field doc env pos = (.error e, pos') := by
  simp only [field]
  rw [run_bind, expectIdent, run_bind, advance_run]
  simp only [tokenAt] at ended
  simp only [ended]
  exact ⟨_, _, rfl⟩

/-- A block keyword is read before anything else. -/
theorem block_moves_of_keyword (doc : Option String) (d : Document) {env : ParserEnv} {pos : Nat}
    (keyword : blockKeywords.any (tokenAt env pos).isIdent = true) : pos < (block doc d env pos).2 := by
  simp only [block]
  rw [run_bind, checkIdent_run]
  dsimp only
  split
  · exact (Moves.bind skip_moves fun _ => .bind (model_forward doc) fun _ => .pure' _) env pos
  · next notModel =>
    rw [run_bind, checkIdent_run]
    dsimp only
    split
    · exact (Moves.bind skip_moves fun _ => .bind (enumBlock_forward doc) fun _ => .pure' _) env pos
    · next notEnum =>
      rw [run_bind, peek_run]
      dsimp only
      split
      · exact (Moves.bind skip_moves fun _ => .bind skipBlock_forward fun _ => .pure' _) env pos
      · next notOther =>
        simp only [blockKeywords, List.any_cons, List.any_nil, List.drop_succ_cons,
          List.drop_zero, Bool.or_false, Bool.or_eq_true] at keyword notModel notEnum notOther
        grind

/-- Anything else is refused where it stands. -/
theorem block_of_not_keyword (doc : Option String) (d : Document) {env : ParserEnv} {pos : Nat}
    (other : blockKeywords.any (tokenAt env pos).isIdent = false) :
    ∃ e, block doc d env pos = (.error e, pos) := by
  simp only [blockKeywords, List.any_cons, List.any_nil, Bool.or_false, Bool.or_eq_false_iff] at other
  obtain ⟨notModel, notEnum, notOther⟩ := other
  simp only [block]
  rw [run_bind, checkIdent_run]
  simp only [notModel, Bool.false_eq_true, if_false]
  rw [run_bind, checkIdent_run]
  simp only [notEnum, Bool.false_eq_true, if_false]
  rw [run_bind, peek_run]
  simp only [blockKeywords, List.drop_succ_cons, List.drop_zero, List.any_cons, List.any_nil,
    notOther, Bool.or_false, Bool.false_eq_true, if_false]
  exact ⟨_, rfl⟩

/-- Recovery reads past a token that opens no block. -/
theorem recover_moves (f : Nat) {env : ParserEnv} {pos : Nat} (present : tokenAt env pos ≠ .eof)
    (other : blockKeywords.any (tokenAt env pos).isIdent = false) :
    pos < (recover (f + 1) env pos).2 := by
  simp only [recover]
  rw [run_bind, peek_run]
  simp only [beq_iff_eq, present, if_false]
  rw [run_bind, get_run]
  dsimp only
  rw [run_bind, read_run]
  dsimp only
  rw [run_bind, peek_run]
  simp only [other, Bool.and_false, Bool.false_eq_true, if_false]
  exact (Moves.bind skip_moves fun _ => recover_forward f) env pos

/-- A step that fails where it stands hands its place to its recovery. -/
lemma tryCatch_moves {α : Type} {x : Parser α} {h : ParseError → Parser α} {env : ParserEnv}
    {pos : Nat} (hh : ∀ e, Forward (h e))
    (progress : pos < (x env pos).2 ∨ (∃ e, x env pos = (.error e, pos)) ∧ ∀ e, pos < (h e env pos).2) :
    pos < (tryCatch x h env pos).2 := by
  rw [tryCatch_run]
  rcases progress with moved | ⟨⟨e, failed⟩, recovered⟩
  · split
    · next a p hr => rw [hr] at moved; exact moved
    · next e p hr => rw [hr] at moved; exact (hh e).lt moved
  · rw [failed]
    exact recovered e

end Prisma.Parser

end Schemata
