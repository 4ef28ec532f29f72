import IssuePlanner.Proofs.Outline.Parsing

/-! The names of a parsed script. What a parser gives on tokens whose names are words has a property (`Yields`): an
expression that is a name is a word, and so are the names of definitions and the targets of assignments
(`wellNamed_of_script`). -/

namespace IssuePlanner.Outline.Script

open Text (IsWord)

/-- An expression that is no name, or a name that is a word. -/
def Expr.WellNamed : Expr → Prop
  | .name x => IsWord x.toList
  | _ => True

/-- The names of definitions and of targets in a statement are words. Only classes are looked into. -/
inductive Stmt.WellNamed : Stmt → Prop
  | functionDef {isAsync name params result body} (h : IsWord name.toList) :
    WellNamed (.functionDef isAsync name params result body)
  | classDef {name bases body} (h : IsWord name.toList) (hbody : ∀ s ∈ body, WellNamed s) :
    WellNamed (.classDef name bases body)
  | assign {targets} (h : ∀ e ∈ targets, Expr.WellNamed e) : WellNamed (.assign targets)
  | annotate {target hint} (h : Expr.WellNamed target) : WellNamed (.annotate target hint)
  | expression {value} : WellNamed (.expression value)
  | other : WellNamed .other

namespace Grammar

variable {α β : Type} {p : Parser α} {P : α → Prop} {Q : β → Prop}

/-- What a parser gives has a property, as long as the names among its tokens are words. -/
def Yields (p : Parser α) (P : α → Prop) : Prop :=
  ∀ ts a ts', WordedTokens ts → p ts = some (a, ts') → P a

namespace Yields

protected theorem pure {a : α} (h : P a) : Yields (pure a) P := by
  intro ts b ts' _ hrun
  cases hrun
  exact h

protected theorem fail : Yields fail P := by
  intro ts a ts' _ hrun
  cases hrun

protected theorem bind {f : α → Parser β} [Keeps p] (hp : Yields p P) (hf : ∀ a, P a → Yields (f a) Q) :
    Yields (p >>= f) Q := by
  intro ts b ts' h hrun
  obtain ⟨⟨a, ts₁⟩, hrun₁, hrun₂⟩ := Option.bind_eq_some_iff.1 hrun
  exact hf a (hp _ _ _ h hrun₁) _ _ _ (Keeps.worded h hrun₁) hrun₂

theorem after {f : α → Parser β} [Keeps p] (hf : ∀ a, Yields (f a) Q) : Yields (p >>= f) Q :=
  Yields.bind (P := fun _ => True) (fun _ _ _ _ _ => trivial) fun a _ => hf a

protected theorem map {f : α → β} (hp : Yields p P) (hf : ∀ a, P a → Q (f a)) : Yields (f <$> p) Q := by
  intro ts b ts' h hrun
  obtain ⟨⟨a, ts₁⟩, hrun₁, hrun₂⟩ := Option.bind_eq_some_iff.1 hrun
  cases hrun₂
  exact hf a (hp _ _ _ h hrun₁)

protected theorem orElse {q : Unit → Parser α} (hp : Yields p P) (hq : Yields (q ()) P) :
    Yields (HOrElse.hOrElse p q) P := by
  intro ts a ts' h hrun
  rcases orElse_cases hrun with hrun | hrun
  · exact hp _ _ _ h hrun
  · exact hq _ _ _ h hrun

protected theorem ite {c : Prop} [Decidable c] {q : Parser α} (hp : Yields p P) (hq : Yields q P) :
    Yields (if c then p else q) P := by
  split
  · exact hp
  · exact hq

protected theorem many [Keeps p] (hp : Yields p P) (n : Nat) : Yields (many p n) fun as => ∀ a ∈ as, P a := by
  induction n with
  | zero => exact .pure (by simp)
  | succ n ih =>
    rw [many]
    refine .orElse (hp.bind fun a ha => ih.bind fun as has => .pure ?_) (.pure (by simp))
    exact List.forall_mem_cons.2 ⟨ha, has⟩

protected theorem many1 [Keeps p] (hp : Yields p P) (n : Nat) : Yields (many1 n p) fun as => ∀ a ∈ as, P a :=
  hp.bind fun _ ha => (hp.many n).bind fun _ has => .pure (List.forall_mem_cons.2 ⟨ha, has⟩)

protected theorem commaListTrailing [Keeps p] (hp : Yields p P) (n : Nat) :
    Yields (commaListTrailing n p) fun x => ∀ a ∈ x.1, P a := by
  have hmore : Yields (do op ","; p) P := .after fun _ => hp
  have hlist : Yields (commaList n p) fun as => ∀ a ∈ as, P a :=
    hp.bind fun _ ha => (hmore.many n).bind fun _ has => .pure (List.forall_mem_cons.2 ⟨ha, has⟩)
  exact hlist.bind fun _ has => .after fun _ => .pure has

end Yields

theorem yields_identifier : Yields identifier fun x => IsWord x.toList := by
  intro ts x ts' h hrun
  cases ts with
  | nil => cases hrun
  | cons t ts =>
    obtain ⟨y, hy, hrun⟩ := Option.map_eq_some_iff.1 hrun
    cases hrun
    cases t with
    | name s =>
      dsimp only at hy
      split_ifs at hy
      cases hy
      rw [String.toList_ofList]
      exact IsWord.normalForm (List.forall_mem_cons.1 h).1
    | _ => cases hy

/-! ### Expressions -/

/-- Rules that give well named expressions. What the others give stands below an operator, where no name is asked for. -/
structure NamesRules (r : Rules) : Prop where
  primary : Yields r.primary Expr.WellNamed
  expression : Yields r.expression Expr.WellNamed

section Expressions

variable {r : Rules}

theorem wellNamed_ite {c : Prop} [Decidable c] {e f : Expr} (he : e.WellNamed) (hf : f.WellNamed) :
    (if c then e else f).WellNamed := by
  split
  · exact he
  · exact hf

theorem wellNamed_foldl {step : Expr → α → Expr} {as : List α} (h : ∀ a ∈ as, ∀ e, (step e a).WellNamed) {e : Expr}
    (he : e.WellNamed) : (as.foldl step e).WellNamed := by
  induction as generalizing e with
  | nil => exact he
  | cons a as ih =>
    rw [List.forall_mem_cons] at h
    exact ih h.2 (h.1 e)

theorem wellNamed_of_concatenate {ls : List StringLexeme} {e : Expr} (h : concatenate r ls = some e) :
    e.WellNamed := by
  unfold concatenate at h
  dsimp only at h
  split at h
  · obtain ⟨values, -, h⟩ := Option.bind_eq_some_iff.1 h
    cases h
    trivial
  split at h
  · cases h
  obtain ⟨parts, -, h⟩ := Option.bind_eq_some_iff.1 h
  split at h
  · cases h
    trivial
  split at h <;> cases h <;> trivial

theorem yields_strings : Yields (strings r) Expr.WellNamed := by
  refine .after fun ls => ?_
  split
  · rename_i e he
    exact .pure (wellNamed_of_concatenate he)
  · exact .fail

theorem yields_leftAssociative {operand : Parser Expr} [Keeps operand] (h : Yields operand Expr.WellNamed)
    (table : List (String × BinaryOp)) : Yields (leftAssociative r table operand) Expr.WellNamed := by
  refine h.bind fun _ he => .after fun _ => .pure ?_
  refine wellNamed_foldl ?_ he
  exact fun _ _ _ => trivial

variable [KeepsRules r]

theorem yields_oneOrTuple {x : List Expr × Bool} (h : ∀ e ∈ x.1, e.WellNamed) :
    Yields (match x with
      | (es, trailing) => match es, trailing with
        | [e], false => pure e
        | es, _ => pure (.tuple es)) Expr.WellNamed := by
  obtain ⟨es, trailing⟩ := x
  dsimp only at h ⊢
  split
  · exact .pure (h _ (List.mem_singleton_self _))
  · exact .pure trivial

theorem yields_starExpressions (hr : NamesRules r) : Yields (starExpressions r) Expr.WellNamed := by
  have hone : Yields (starExpression r) Expr.WellNamed :=
    .orElse (.after fun _ => .after fun _ => .pure trivial) hr.expression
  exact (hone.commaListTrailing _).bind fun _ h => yields_oneOrTuple h

theorem yields_yieldExpression : Yields (yieldExpression r) Expr.WellNamed :=
  .after fun _ => .orElse (.after fun _ => .after fun _ => .pure trivial) (.after fun _ => .pure trivial)

theorem yields_starNamedExpression (hr : NamesRules r) : Yields (starNamedExpression r) Expr.WellNamed := by
  refine .orElse (.after fun _ => .after fun _ => .pure trivial) (.orElse ?_ ?_)
  · exact .after fun _ => .after fun _ => .after fun _ => .pure trivial
  · exact hr.expression.bind fun _ he => .after fun _ => .pure he

theorem yields_parenthesised (hr : NamesRules r) : Yields (parenthesised r) Expr.WellNamed := by
  refine .orElse (.after fun _ => .pure trivial) (.orElse ?_ ?_)
  · exact yields_yieldExpression.bind fun _ he => .after fun _ => .pure he
  refine (yields_starNamedExpression hr).bind fun e he => .orElse ?_ (.ite .fail (.orElse ?_ ?_))
  · exact .after fun _ => .after fun _ => .after fun _ => .pure trivial
  · exact .after fun _ => .pure he
  · exact .after fun _ => .after fun _ => .pure trivial

theorem yields_bracketed : Yields (bracketed r) Expr.WellNamed := by
  refine .orElse (.after fun _ => .pure trivial) (.after fun _ => .after fun _ => .ite (.ite .fail ?_) ?_)
  · exact .after fun _ => .after fun _ => .pure trivial
  · exact .after fun _ => .after fun _ => .after fun _ => .pure trivial

theorem yields_braced : Yields (braced r) Expr.WellNamed := by
  refine .after fun _ => .ite (.after fun _ => .pure trivial) (.after fun _ => .ite ?_ ?_)
  · exact .after fun _ => .after fun _ => .pure trivial
  refine .after fun _ => .after fun _ => .after fun _ => .ite (.ite .fail ?_) (.after fun _ => .ite (.ite .fail ?_) ?_)
  · refine .after fun _ => .after fun _ => .after fun _ => .ite ?_ ?_
    · exact .after fun _ => .after fun _ => .pure trivial
    · exact .after fun _ => .after fun _ => .after fun _ => .pure trivial
  · exact .after fun _ => .after fun _ => .pure trivial
  · exact .after fun _ => .after fun _ => .after fun _ => .pure trivial

theorem yields_atom (hr : NamesRules r) : Yields (atom r) Expr.WellNamed := by
  refine .after fun t => ?_
  split
  · split
    · exact .after fun _ => .pure trivial
    · exact yields_identifier.map fun _ h => h
  · exact yields_strings
  · exact .map (P := fun _ => True) (fun _ _ _ _ _ => trivial) fun _ _ => trivial
  · exact .after fun _ => yields_parenthesised hr
  · exact .after fun _ => yields_bracketed
  · exact .after fun _ => yields_braced
  · exact .after fun _ => .pure trivial
  · exact .fail

theorem yields_trailer : Yields (trailer r) fun t => ∀ e, (t e).WellNamed := by
  refine .orElse ?_ (.orElse ?_ ?_)
  · exact .after fun _ => .after fun _ => .pure fun _ => trivial
  · exact .after fun _ => .after fun _ => .pure fun _ => trivial
  · exact .after fun _ => .after fun _ => .after fun _ => .pure fun _ => trivial

theorem yields_primary (hr : NamesRules r) : Yields (primary r) Expr.WellNamed :=
  (yields_atom hr).bind fun _ he => (yields_trailer.many _).bind fun _ hts => .pure (wellNamed_foldl hts he)

theorem yields_factor (hr : NamesRules r) : Yields (factor r) Expr.WellNamed := by
  have hawait : Yields (awaitPrimary r) Expr.WellNamed :=
    .orElse (.after fun _ => .after fun _ => .pure trivial) (yields_primary hr)
  refine .orElse (.after fun _ => .after fun _ => .pure trivial) (hawait.bind fun _ he => .orElse ?_ (.pure he))
  exact .after fun _ => .after fun _ => .pure trivial

theorem yields_bitwiseOr (hr : NamesRules r) : Yields (bitwiseOr r) Expr.WellNamed :=
  have hsum : Yields (sum r) Expr.WellNamed := yields_leftAssociative (yields_leftAssociative (yields_factor hr) _) _
  yields_leftAssociative (yields_leftAssociative (yields_leftAssociative (yields_leftAssociative hsum _) _) _) _

theorem yields_disjunction (hr : NamesRules r) : Yields (disjunction r) Expr.WellNamed := by
  have hcomparison : Yields (comparison r) Expr.WellNamed :=
    (yields_bitwiseOr hr).bind fun _ he => .after fun _ => .pure (wellNamed_ite he trivial)
  have hinversion : Yields (inversion r) Expr.WellNamed :=
    .orElse (.after fun _ => .after fun _ => .pure trivial) hcomparison
  have hconjunction : Yields (conjunction r) Expr.WellNamed :=
    hinversion.bind fun _ he => .after fun _ => .pure (wellNamed_ite he trivial)
  exact hconjunction.bind fun _ he => .after fun _ => .pure (wellNamed_ite he trivial)

theorem yields_expression (hr : NamesRules r) : Yields (expression r) Expr.WellNamed := by
  refine .orElse ((yields_disjunction hr).bind fun _ he => .orElse ?_ (.pure he)) ?_
  · exact .after fun _ => .after fun _ => .after fun _ => .after fun _ => .pure trivial
  · exact .after fun _ => .after fun _ => .after fun _ => .after fun _ => .pure trivial

theorem namesRules_rules (bound n : Nat) : NamesRules (rules bound n) := by
  induction n with
  | zero => exact ⟨.fail, .fail⟩
  | succ n ih => exact ⟨yields_primary (r := rules bound n) ih, yields_expression (r := rules bound n) ih⟩

end Expressions

/-! ### Statements -/

section Statements

variable {r : Rules} [KeepsRules r] {b : BlockRules} [KeepsBlocks b]

theorem yields_assignedChain (hr : NamesRules r) (n : Nat) {target : Expr} (h : target.WellNamed) :
    Yields (assignedChain r n target) fun es => ∀ e ∈ es, e.WellNamed := by
  induction n generalizing target with
  | zero => exact .fail
  | succ n ih =>
    have hassigned : Yields (assigned r) Expr.WellNamed := .orElse yields_yieldExpression (yields_starExpressions hr)
    rw [assignedChain]
    refine .ite .fail (.after fun _ => hassigned.bind fun e he => .after fun _ => .ite ?_ ?_)
    · exact (ih he).bind fun _ hes => .pure (List.forall_mem_cons.2 ⟨h, hes⟩)
    · exact .pure (List.forall_mem_singleton.2 h)

theorem yields_expressionStatement (hr : NamesRules r) : Yields (expressionStatement r) Stmt.WellNamed := by
  refine (yields_starExpressions hr).bind fun e he => .after fun _ => .ite (.ite .fail ?_) (.after fun _ => .ite ?_ ?_)
  · exact .after fun _ => .after fun _ => .after fun _ => .pure (.annotate he)
  · exact (yields_assignedChain hr _ he).map fun _ hes => .assign hes
  refine .after fun augmented => ?_
  split
  · exact .ite (.after fun _ => .pure .other) .fail
  · exact .pure .expression

theorem yields_simpleStatements (hr : NamesRules r) :
    Yields (simpleStatements r) fun ss => ∀ s ∈ ss, s.WellNamed := by
  have hone : Yields (simpleStatement r) Stmt.WellNamed := by
    refine .after fun t => ?_
    split
    -- a `yield`, and what starts with an expression; all else is not looked into
    case h_9 => exact yields_yieldExpression.map fun _ _ => .expression
    case h_13 => exact yields_expressionStatement hr
    all_goals exact .after fun _ => .pure .other
  have hmore : Yields (do op ";"; simpleStatement r) Stmt.WellNamed := .after fun _ => hone
  refine hone.bind fun _ hs => (hmore.many _).bind fun _ hss => .after fun _ => .after fun _ => .pure ?_
  exact List.forall_mem_cons.2 ⟨hs, hss⟩

theorem yields_colonBlock (hr : NamesRules r) (hb : Yields b.statement fun ss => ∀ s ∈ ss, s.WellNamed) :
    Yields (colonBlock r b) fun ss => ∀ s ∈ ss, s.WellNamed := by
  have hstatements : Yields (statements r b) fun ss => ∀ s ∈ ss, s.WellNamed :=
    (hb.many1 _).bind fun _ h => .pure (List.forall_mem_flatten.2 h)
  refine .after fun _ => .orElse ?_ (yields_simpleStatements hr)
  exact .after fun _ => .after fun _ => hstatements.bind fun _ h => .after fun _ => .pure h

theorem yields_functionStatement (isAsync : Bool) : Yields (functionStatement r b isAsync) Stmt.WellNamed :=
  .after fun _ => yields_identifier.bind fun _ hx => .after fun _ => .after fun _ => .after fun _ => .after fun _ =>
    .after fun _ => .pure (.functionDef hx)

theorem yields_classStatement (hr : NamesRules r) (hb : Yields b.statement fun ss => ∀ s ∈ ss, s.WellNamed) :
    Yields (classStatement r b) Stmt.WellNamed :=
  .after fun _ => yields_identifier.bind fun _ hx => .after fun _ =>
    (yields_colonBlock hr hb).bind fun _ hbody => .pure (.classDef hx hbody)

theorem yields_decorated (hr : NamesRules r) (hb : Yields b.statement fun ss => ∀ s ∈ ss, s.WellNamed) :
    Yields (decorated r b) Stmt.WellNamed := by
  refine .after fun _ => .orElse (yields_functionStatement _) (.orElse ?_ (yields_classStatement hr hb))
  exact .after fun _ => yields_functionStatement _

theorem yields_asyncStatement : Yields (asyncStatement r b) Stmt.WellNamed := by
  refine .after fun _ => .orElse (yields_functionStatement _) (.orElse ?_ ?_)
  · exact .after fun _ => .pure .other
  · exact .after fun _ => .pure .other

theorem yields_statement (hr : NamesRules r) (hb : Yields b.statement fun ss => ∀ s ∈ ss, s.WellNamed) :
    Yields (statement r b) fun ss => ∀ s ∈ ss, s.WellNamed := by
  have hdefinition {p : Parser Stmt} [Keeps p] (h : Yields p Stmt.WellNamed) :
      Yields (do return [← p]) fun ss => ∀ s ∈ ss, s.WellNamed :=
    h.bind fun _ hs => .pure (List.forall_mem_singleton.2 hs)
  have hother {p : Parser Unit} [Keeps p] : Yields (do p; return [Stmt.other]) fun ss => ∀ s ∈ ss, s.WellNamed :=
    .after fun _ => .pure (List.forall_mem_singleton.2 .other)
  refine .after fun t => ?_
  split
  · exact hdefinition (yields_functionStatement _)
  · exact hdefinition (yields_decorated hr hb)
  · exact hdefinition yields_asyncStatement
  · exact hdefinition (yields_classStatement hr hb)
  · exact hother
  · exact hother
  · exact hother
  · exact hother
  · exact hother
  · exact .after fun _ => .ite hother (yields_simpleStatements hr)
  · exact yields_simpleStatements hr

theorem yields_blockRules (hr : NamesRules r) (p : PatternRules) [KeepsPatterns p] (n : Nat) :
    Yields (blockRules r p n).statement fun ss => ∀ s ∈ ss, s.WellNamed := by
  induction n with
  | zero => exact .fail
  | succ n ih => exact yields_statement hr ih

end Statements

theorem wellNamed_of_script {source : List Char} {body : List Stmt} (h : script? source = some body) :
    ∀ s ∈ body, s.WellNamed := by
  obtain ⟨ts, hts, h⟩ := Option.bind_eq_some_iff.1 h
  obtain ⟨⟨ss, rest⟩, hss, h⟩ := Option.bind_eq_some_iff.1 h
  dsimp only at h
  split_ifs at h
  cases h
  have hstatements := (yields_blockRules (namesRules_rules _ _) (patternRules _ _) _).many _ _ _ _
    (Lexer.worded_tokens hts) hss
  exact List.forall_mem_flatten.2 hstatements

end Grammar

end IssuePlanner.Outline.Script
