import IssuePlanner.Proofs.Outline.Words

/-! Parsers leave words. A parser uses tokens up from the front, so where the names among its tokens are words, those
among the tokens that it leaves are words too (`Keeps`). This holds for what the grammar is put together with, and so for
every rule of it. -/

namespace IssuePlanner.Outline.Script.Grammar

variable {α β : Type} {p q : Parser α}

/-- A parser that leaves words where it was given words. -/
class Keeps (p : Parser α) : Prop where
  worded : ∀ {ts a ts'}, WordedTokens ts → p ts = some (a, ts') → WordedTokens ts'

instance keeps_pure (a : α) : Keeps (pure a : Parser α) where
  worded h hrun := by
    cases hrun
    exact h

instance keeps_fail : Keeps (fail : Parser α) where
  worded _ hrun := by cases hrun

instance keeps_bind {f : α → Parser β} [Keeps p] [∀ a, Keeps (f a)] : Keeps (p >>= f) where
  worded h hrun := by
    obtain ⟨⟨a, ts⟩, hp, hf⟩ := Option.bind_eq_some_iff.1 hrun
    exact Keeps.worded (Keeps.worded h hp) hf

theorem Keeps.bind {f : α → Parser β} [Keeps p] (h : ∀ a, Keeps (f a)) : Keeps (p >>= f) := keeps_bind

instance keeps_map {f : α → β} [Keeps p] : Keeps (f <$> p) where
  worded h hrun := by
    obtain ⟨⟨a, ts⟩, hp, hf⟩ := Option.bind_eq_some_iff.1 hrun
    cases hf
    exact Keeps.worded h hp

theorem orElse_cases {q : Unit → Parser α} {ts : List Token} {x : α × List Token}
    (h : (HOrElse.hOrElse p q : Parser α) ts = some x) : p ts = some x ∨ q () ts = some x := by
  change (p ts <|> q () ts) = some x at h
  cases hp : p ts with
  | none => exact .inr (by rwa [hp] at h)
  | some y => exact .inl (by rwa [hp] at h)

instance keeps_orElse {q : Unit → Parser α} [Keeps p] [∀ u, Keeps (q u)] : Keeps (HOrElse.hOrElse p q) where
  worded h hrun := by
    rcases orElse_cases hrun with hp | hq
    · exact Keeps.worded h hp
    · exact Keeps.worded h hq

instance keeps_ite {c : Prop} [Decidable c] [Keeps p] [Keeps q] : Keeps (if c then p else q) := by
  split <;> infer_instance

instance keeps_satisfy {f : Token → Option α} : Keeps (satisfy f) where
  worded {ts a ts'} h hrun := by
    cases ts with
    | nil => cases hrun
    | cons t ts =>
      obtain ⟨b, -, hrun⟩ := Option.map_eq_some_iff.1 hrun
      cases hrun
      exact (List.forall_mem_cons.1 h).2

instance keeps_token (t : Token) : Keeps (token t) := keeps_satisfy

instance keeps_op (s : String) : Keeps (op s) := keeps_satisfy

instance keeps_word (s : String) : Keeps (word s) := keeps_satisfy

instance keeps_peek : Keeps peek where
  worded h hrun := by
    cases hrun
    exact h

instance keeps_accepts {p : Parser α} : Keeps (accepts p) where
  worded h hrun := by
    cases hrun
    exact h

instance keeps_notFollowedBy {p : Parser α} : Keeps (notFollowedBy p) where
  worded h hrun := by
    unfold notFollowedBy at hrun
    split_ifs at hrun
    cases hrun
    exact h

instance keeps_optional [Keeps p] : Keeps (optional p) := inferInstanceAs (Keeps (some <$> p <|> pure none))

instance keeps_many [Keeps p] (n : Nat) : Keeps (many p n) := by
  induction n with
  | zero => exact inferInstanceAs (Keeps (pure []))
  | succ n ih => rw [many]; infer_instance

instance keeps_many1 [Keeps p] (n : Nat) : Keeps (many1 n p) := by unfold many1; infer_instance

instance keeps_commaList [Keeps p] (n : Nat) : Keeps (commaList n p) := by unfold commaList; infer_instance

instance keeps_commaListTrailing [Keeps p] (n : Nat) : Keeps (commaListTrailing n p) := by
  unfold commaListTrailing; infer_instance

instance keeps_identifier : Keeps identifier := keeps_satisfy

instance keeps_anyOp (table : List (String × α)) : Keeps (anyOp table) := keeps_satisfy

/-- Rules that leave words where they are given words. -/
class KeepsRules (r : Rules) : Prop where
  primary : Keeps r.primary
  factor : Keeps r.factor
  bitwiseOr : Keeps r.bitwiseOr
  inversion : Keeps r.inversion
  disjunction : Keeps r.disjunction
  expression : Keeps r.expression

attribute [instance] KeepsRules.primary KeepsRules.factor KeepsRules.bitwiseOr KeepsRules.inversion
  KeepsRules.disjunction KeepsRules.expression

section Expressions

variable (r : Rules) [KeepsRules r]

set_option synthInstance.maxSize 20000

instance : Keeps startsClause := by unfold startsClause; infer_instance
instance : Keeps startsNamed := by unfold startsNamed; infer_instance
instance : Keeps numberLiteral := by unfold numberLiteral; infer_instance
instance : Keeps (starTarget r) := by unfold starTarget; infer_instance

instance : Keeps (starTargets r) := by
  unfold starTargets
  exact .bind fun _ => by split; split <;> infer_instance

instance : Keeps (namedExpression r) := by unfold namedExpression; infer_instance
instance : Keeps (starNamedExpression r) := by unfold starNamedExpression; infer_instance
instance : Keeps (starExpression r) := by unfold starExpression; infer_instance

instance : Keeps (starExpressions r) := by
  unfold starExpressions
  exact .bind fun _ => by split; split <;> infer_instance

instance : Keeps (yieldExpression r) := by unfold yieldExpression; infer_instance
instance : Keeps (clause r) := by unfold clause; infer_instance
instance : Keeps (clauses r) := by unfold clauses; infer_instance
instance : Keeps (parenthesised r) := by unfold parenthesised; infer_instance
instance : Keeps (bracketed r) := by unfold bracketed; infer_instance
instance : Keeps (dictEntry r) := by unfold dictEntry; infer_instance

instance : Keeps (braced r) := by
  unfold braced
  dsimp only
  infer_instance

instance : Keeps (strings r) := by
  unfold strings
  exact .bind fun _ => by split <;> infer_instance

instance : Keeps (atom r) := by
  unfold atom
  refine .bind fun t => ?_
  split
  · split <;> infer_instance
  all_goals infer_instance

instance : Keeps (slice r) := by
  unfold slice
  refine .bind fun _ => ?_
  split
  · infer_instance
  refine .bind fun _ => .bind fun _ => ?_
  split
  · infer_instance
  split <;> infer_instance

instance : Keeps (sliceOrStarred r) := by unfold sliceOrStarred; infer_instance

instance : Keeps (slices r) := by
  unfold slices
  exact .bind fun _ => by split; split <;> infer_instance

instance : Keeps (argument r) := by unfold argument; infer_instance

instance (generators : Bool) : Keeps (arguments r generators) := by
  unfold arguments
  refine .bind fun _ => ?_
  split
  · infer_instance
  refine .bind fun _ => .bind fun _ => ?_
  split
  · split <;> infer_instance
  infer_instance

instance : Keeps (trailer r) := by unfold trailer; infer_instance
instance : Keeps (primary r) := by unfold primary; infer_instance
instance : Keeps (awaitPrimary r) := by unfold awaitPrimary; infer_instance
instance : Keeps (power r) := by unfold power; infer_instance
instance : Keeps (factor r) := by unfold factor; infer_instance

instance {p : Parser Expr} [Keeps p] (table : List (String × BinaryOp)) : Keeps (leftAssociative r table p) := by
  unfold leftAssociative; infer_instance

instance : Keeps (term r) := by unfold term; infer_instance
instance : Keeps (sum r) := by unfold sum; infer_instance
instance : Keeps (shift r) := by unfold shift; infer_instance
instance : Keeps (bitwiseAnd r) := by unfold bitwiseAnd; infer_instance
instance : Keeps (bitwiseXor r) := by unfold bitwiseXor; infer_instance
instance : Keeps (bitwiseOr r) := by unfold bitwiseOr; infer_instance
instance : Keeps comparisonOp := by unfold comparisonOp; infer_instance
instance : Keeps (comparison r) := by unfold comparison; infer_instance
instance : Keeps (inversion r) := by unfold inversion; infer_instance
instance : Keeps (conjunction r) := by unfold conjunction; infer_instance
instance : Keeps (disjunction r) := by unfold disjunction; infer_instance
instance (annotated : Bool) : Keeps (parameter r annotated) := by unfold parameter; infer_instance

instance (annotated : Bool) (close : String) : Keeps (parameters r annotated close) := by
  unfold parameters
  refine .bind fun _ => ?_
  split
  · infer_instance
  refine .bind fun _ => .bind fun _ => ?_
  split
  · split <;> infer_instance
  infer_instance

instance : Keeps (lambda r) := by unfold lambda; infer_instance
instance : Keeps (expression r) := by unfold expression; infer_instance

instance : KeepsRules r.next where
  primary := inferInstanceAs (Keeps (primary r))
  factor := inferInstanceAs (Keeps (factor r))
  bitwiseOr := inferInstanceAs (Keeps (bitwiseOr r))
  inversion := inferInstanceAs (Keeps (inversion r))
  disjunction := inferInstanceAs (Keeps (disjunction r))
  expression := inferInstanceAs (Keeps (expression r))

instance keepsRules_rules (bound n : Nat) : KeepsRules (rules bound n) := by
  induction n with
  | zero => exact ⟨keeps_fail, keeps_fail, keeps_fail, keeps_fail, keeps_fail, keeps_fail⟩
  | succ n ih => exact inferInstanceAs (KeepsRules (rules bound n).next)

end Expressions

/-! ### Patterns -/

section Patterns

class KeepsPatterns (p : PatternRules) : Prop where
  pattern : Keeps p.pattern
  closed : Keeps p.closed

attribute [instance] KeepsPatterns.pattern KeepsPatterns.closed

set_option synthInstance.maxSize 20000

variable (r : Rules) [KeepsRules r] (p : PatternRules) [KeepsPatterns p]

instance (signed imaginary : Bool) : Keeps (partNumber signed imaginary) := by unfold partNumber; infer_instance
instance : Keeps signedNumber := by unfold signedNumber; infer_instance
instance : Keeps complexNumber := by unfold complexNumber; infer_instance
instance : Keeps (literalPattern r) := by unfold literalPattern; infer_instance
instance : Keeps notCalledOrDotted := by unfold notCalledOrDotted; infer_instance
instance : Keeps captureTarget := by unfold captureTarget; infer_instance
instance : Keeps wildcard := by unfold wildcard; infer_instance
instance (bound : Nat) : Keeps (dottedName bound) := by unfold dottedName; infer_instance
instance (bound : Nat) : Keeps (valuePattern bound) := by unfold valuePattern; infer_instance
instance : Keeps starPattern := by unfold starPattern; infer_instance
instance : Keeps (maybeStarPattern p) := by unfold maybeStarPattern; infer_instance
instance : Keeps (maybeSequence r p) := by unfold maybeSequence; infer_instance
instance : Keeps (openSequence r p) := by unfold openSequence; infer_instance
instance : Keeps (keyValuePattern r p) := by unfold keyValuePattern; infer_instance
instance : Keeps doubleStarPattern := by unfold doubleStarPattern; infer_instance
instance : Keeps (mappingPattern r p) := by unfold mappingPattern; infer_instance
instance : Keeps (keywordPattern p) := by unfold keywordPattern; infer_instance
instance : Keeps (classPattern r p) := by unfold classPattern; infer_instance
instance : Keeps (closedPattern r p) := by unfold closedPattern; infer_instance
instance : Keeps (pattern r p) := by unfold pattern; infer_instance

instance keepsPatterns_patternRules (n : Nat) : KeepsPatterns (patternRules r n) := by
  induction n with
  | zero => exact ⟨keeps_fail, keeps_fail⟩
  | succ n ih => exact ⟨inferInstanceAs (Keeps (pattern r _)), inferInstanceAs (Keeps (closedPattern r _))⟩

instance : Keeps (patterns r p) := by unfold patterns; infer_instance

end Patterns

/-! ### Statements -/

section Statements

class KeepsBlocks (b : BlockRules) : Prop where
  statement : Keeps b.statement
  patterns : KeepsPatterns b.patterns

attribute [instance] KeepsBlocks.statement KeepsBlocks.patterns

set_option synthInstance.maxSize 20000

variable (r : Rules) [KeepsRules r] (b : BlockRules) [KeepsBlocks b]

instance : Keeps (assigned r) := by unfold assigned; infer_instance

instance (n : Nat) (e : Expr) : Keeps (assignedChain r n e) := by
  induction n generalizing e with
  | zero => exact keeps_fail
  | succ n ih => rw [assignedChain]; infer_instance

instance : Keeps (expressionStatement r) := by
  unfold expressionStatement
  refine .bind fun _ => .bind fun _ => ?_
  split
  · infer_instance
  refine .bind fun _ => ?_
  split
  · infer_instance
  refine .bind fun _ => ?_
  split <;> infer_instance

instance (bound : Nat) : Keeps (dotted bound) := by unfold dotted; infer_instance
instance : Keeps asName := by unfold asName; infer_instance
instance (bound : Nat) : Keeps (importNames bound) := by unfold importNames; infer_instance
instance (bound : Nat) : Keeps (importedNames bound) := by unfold importedNames; infer_instance
instance (bound : Nat) : Keeps (importFrom bound) := by unfold importFrom; infer_instance
instance : Keeps (deletion r) := by unfold deletion; infer_instance

instance : Keeps (simpleStatement r) := by
  unfold simpleStatement
  dsimp only
  refine .bind fun t => ?_
  split <;> infer_instance

instance : Keeps (simpleStatements r) := by unfold simpleStatements; infer_instance
instance : Keeps (statements r b) := by unfold statements; infer_instance
instance : Keeps (block r b) := by unfold block; infer_instance
instance : Keeps (colonBlock r b) := by unfold colonBlock; infer_instance
instance : Keeps (elseBlock r b) := by unfold elseBlock; infer_instance
instance : Keeps (ifStatement r b) := by unfold ifStatement; infer_instance
instance : Keeps (whileStatement r b) := by unfold whileStatement; infer_instance
instance : Keeps (forStatement r b) := by unfold forStatement; infer_instance
instance : Keeps (withItem r) := by unfold withItem; infer_instance
instance : Keeps (withItems r) := by unfold withItems; infer_instance
instance : Keeps (withStatement r b) := by unfold withStatement; infer_instance
instance (starred : Bool) : Keeps (exceptBlock r b starred) := by unfold exceptBlock; infer_instance
instance : Keeps (finallyBlock r b) := by unfold finallyBlock; infer_instance
instance : Keeps (tryStatement r b) := by unfold tryStatement; infer_instance
instance : Keeps (caseBlock r b) := by unfold caseBlock; infer_instance
instance : Keeps (matchSubject r) := by unfold matchSubject; infer_instance
instance : Keeps (matchHead r) := by unfold matchHead; infer_instance
instance : Keeps (matchStatement r b) := by unfold matchStatement; infer_instance
instance (isAsync : Bool) : Keeps (functionStatement r b isAsync) := by unfold functionStatement; infer_instance
instance : Keeps (classStatement r b) := by unfold classStatement; infer_instance
instance : Keeps (definition r b) := by unfold definition; infer_instance
instance : Keeps (decorated r b) := by unfold decorated; infer_instance
instance : Keeps (asyncStatement r b) := by unfold asyncStatement; infer_instance

instance : Keeps (statement r b) := by
  unfold statement
  dsimp only
  refine .bind fun t => ?_
  split <;> infer_instance

instance keepsBlocks_blockRules (p : PatternRules) [KeepsPatterns p] (n : Nat) : KeepsBlocks (blockRules r p n) := by
  induction n with
  | zero => exact ⟨keeps_fail, inferInstanceAs (KeepsPatterns p)⟩
  | succ n ih => exact ⟨inferInstanceAs (Keeps (statement r _)), inferInstanceAs (KeepsPatterns p)⟩

end Statements

end IssuePlanner.Outline.Script.Grammar
