import IssuePlanner.Outline.Script.Grammar.Basic
import IssuePlanner.Outline.Script.Interpolation
import IssuePlanner.Outline.Script.Lexer

/-! The grammar of expressions. `Rules` holds the parsers that the grammar enters again from inside itself;
`Rules.next` builds them one level up, and `rules n` has `n` levels, which is enough for a text of `n`
characters since every way back to `Rules` has used one up. -/

namespace IssuePlanner.Outline.Script.Grammar

structure Rules where
  /-- More than the number of tokens. -/
  bound : Nat
  primary : Parser Expr
  factor : Parser Expr
  bitwiseOr : Parser Expr
  inversion : Parser Expr
  disjunction : Parser Expr
  expression : Parser Expr

mutual

def isTarget : Expr → Bool
  | .name _ | .attribute .. | .subscript .. => true
  | .tuple es | .list es => areTargets es
  | .starred (.starred _) => false
  | .starred e => isTarget e
  | _ => false

def areTargets : List Expr → Bool
  | [] => true
  | e :: es => isTarget e && areTargets es

end

mutual

def isDeletable : Expr → Bool
  | .name _ | .attribute .. | .subscript .. => true
  | .tuple es | .list es => areDeletable es
  | _ => false

def areDeletable : List Expr → Bool
  | [] => true
  | e :: es => isDeletable e && areDeletable es

end

def isSinglePlace : Expr → Bool
  | .name _ | .attribute .. | .subscript .. => true
  | _ => false

def isStarred : Expr → Bool
  | .starred _ => true
  | _ => false

variable (r : Rules)

/-- A target of an assignment, written without operators. -/
def starTarget : Parser Expr := do
  let star ← optional (op "*")
  let e ← r.primary
  let e := if star.isSome then .starred e else e
  if isTarget e then return e else fail

def starTargets : Parser Expr := do
  let (es, trailing) ← commaListTrailing r.bound (starTarget r)
  match es, trailing with
  | [e], false => return e
  | es, _ => return .tuple es

def namedExpression : Parser Expr :=
  (do
    let x ← identifier
    op ":="
    let e ← r.expression
    return .named (.name x) e) <|>
  (do
    let e ← r.expression
    notFollowedBy (op ":=")
    return e)

def starNamedExpression : Parser Expr :=
  (do
    op "*"
    let e ← r.bitwiseOr
    return .starred e) <|> namedExpression r

def starExpression : Parser Expr :=
  (do
    op "*"
    let e ← r.bitwiseOr
    return .starred e) <|> r.expression

/-- One expression, or a tuple of them without brackets. -/
def starExpressions : Parser Expr := do
  let (es, trailing) ← commaListTrailing r.bound (starExpression r)
  match es, trailing with
  | [e], false => return e
  | es, _ => return .tuple es

def yieldExpression : Parser Expr := do
  word "yield"
  (do
    word "from"
    let e ← r.expression
    return .yieldFrom e) <|>
  (do
    let e ← optional (starExpressions r)
    return .yield e)

def clause : Parser (Clause Expr) := do
  let async ← optional (word "async")
  word "for"
  let target ← starTargets r
  word "in"
  let source ← r.disjunction
  let conditions ← many (do word "if"; r.disjunction) r.bound
  return ⟨async.isSome, target, source, conditions⟩

def clauses : Parser (List (Clause Expr)) := many1 r.bound (clause r)

def startsClause : Parser Bool := accepts (word "for" <|> word "async")

def parenthesised : Parser Expr :=
  (do op ")"; return .tuple []) <|>
  (do
    let e ← yieldExpression r
    op ")"
    return e) <|>
  (do
    let e ← starNamedExpression r
    (do
      op ","
      let more ← optional (commaListTrailing r.bound (starNamedExpression r))
      op ")"
      return .tuple (e :: (more.map (·.1)).getD [])) <|>
    (if isStarred e then fail else
      (do op ")"; return e) <|>
      (do
        let cs ← clauses r
        op ")"
        return .generator e cs)))

def bracketed : Parser Expr :=
  (do op "]"; return .list []) <|>
  (do
    let e ← starNamedExpression r
    if ← startsClause then
      if isStarred e then fail
      else
        let cs ← clauses r
        op "]"
        return .listOf e cs
    else
      let more ← many (do op ","; starNamedExpression r) r.bound
      let _ ← optional (op ",")
      op "]"
      return .list (e :: more))

def dictEntry : Parser (Option Expr × Expr) :=
  (do
    op "**"
    let e ← r.bitwiseOr
    return (none, e)) <|>
  (do
    let k ← r.expression
    op ":"
    let e ← r.expression
    return (some k, e))

def startsNamed : Parser Bool := accepts (do let _ ← identifier; op ":=")

def braced : Parser Expr := do
  if ← accepts (op "\x7d") then
    op "\x7d"
    return .dict []
  else if ← accepts (op "**") then
    let (es, _) ← commaListTrailing r.bound (dictEntry r)
    op "\x7d"
    return .dict es
  else
    let isNamed ← startsNamed
    let e ← starNamedExpression r
    if ← accepts (op ":") then
      if isNamed || isStarred e then fail
      else
        op ":"
        let v ← r.expression
        if ← startsClause then
          let cs ← clauses r
          op "\x7d"
          return .dictOf e v cs
        else
          let more ← many (do op ","; dictEntry r) r.bound
          let _ ← optional (op ",")
          op "\x7d"
          return .dict ((some e, v) :: more)
    else if ← startsClause then
      if isStarred e then fail
      else
        let cs ← clauses r
        op "\x7d"
        return .setOf e cs
    else
      let more ← many (do op ","; starNamedExpression r) r.bound
      let _ ← optional (op ",")
      op "\x7d"
      return .set (e :: more)

def innerValue (src : List Char) : Option Expr :=
  if Interpolation.isEmptySource src then none
  else
    (Lexer.tokens? ('(' :: src ++ [')'])).bind fun ts => (r.expression ts).map (·.1)

def textParts (l : StringLexeme) : Option (List Expr) :=
  let raw := l.letters.contains 'r'
  if l.letters.contains 'f' then Interpolation.read? (innerValue r) raw l.body
  else (Literal.text? raw l.body).map fun codes => [Interpolation.plain codes]

/-- The value of string literals that stand side by side: all of them bytes, or none. -/
def concatenate (ls : List StringLexeme) : Option Expr :=
  let isBytes (l : StringLexeme) : Bool := l.letters.contains 'b'
  if ls.all isBytes then do
    let values ← ls.mapM fun l => Literal.bytes? (l.letters.contains 'r') l.body
    return .constant (.bytes values.flatten)
  else if ls.any isBytes then none
  else do
    let parts ← ls.mapM (textParts r)
    let parts := Interpolation.merge parts.flatten
    if ls.any fun l => l.letters.contains 'f' then return .joined parts
    else match parts with
      | .constant (.text _ codes) :: _ =>
        return .constant (.text (ls.head?.any (·.smallU)) codes)
      | _ => return .constant (.text (ls.head?.any (·.smallU)) [])

def strings : Parser Expr := do
  let lexeme : Parser StringLexeme := satisfy fun
    | .string l => some l
    | _ => none
  let ls ← many1 r.bound lexeme
  match concatenate r ls with
  | some e => return e
  | none => fail

def constantNames : List (String × Constant) :=
  [("None", .none), ("True", .true), ("False", .false)]

def numberLiteral : Parser Constant := satisfy fun
  | .number l => Literal.number? l
  | _ => none

def atom : Parser Expr := do
  match ← peek with
  | some (.name s) =>
    match constantNames.find? (·.1 = s) with
    | some (_, c) => do word s; return .constant c
    | none => .name <$> identifier
  | some (.string _) => strings r
  | some (.number _) => .constant <$> numberLiteral
  | some (.op "(") => do op "("; parenthesised r
  | some (.op "[") => do op "["; bracketed r
  | some (.op "\x7b") => do op "\x7b"; braced r
  | some (.op "...") => do op "..."; return .constant .ellipsis
  | _ => fail

def slice : Parser Expr := do
  if ← startsNamed then namedExpression r
  else
    let lower ← optional r.expression
    let isSlice ← accepts (op ":")
    if isSlice then
      op ":"
      let upper ← optional r.expression
      let step ← optional (do op ":"; optional r.expression)
      return .slice lower upper (step.getD none)
    else match lower with
      | some e => return e
      | none => fail

def sliceOrStarred : Parser Expr :=
  (do
    op "*"
    let e ← r.expression
    return .starred e) <|> slice r

def slices : Parser Expr := do
  let (es, trailing) ← commaListTrailing r.bound (sliceOrStarred r)
  match es, trailing with
  | [e], false => return if isStarred e then .tuple [e] else e
  | es, _ => return .tuple es

inductive Argument where
  | positional (e : Expr)
  | keyword (name : String) (e : Expr)
  | spread (e : Expr)

def argument : Parser Argument :=
  (do
    op "*"
    let e ← r.expression
    return .positional (.starred e)) <|>
  (do
    op "**"
    let e ← r.expression
    return .spread e) <|>
  (do
    let x ← identifier
    op "="
    let e ← r.expression
    return .keyword x e) <|>
  (do
    let e ← namedExpression r
    notFollowedBy (op "=")
    return .positional e)

/-- Arguments in an order that is allowed: after one by name no plain positional one follows, after a
spread dictionary no spread list either. -/
def inOrder (named spread : Bool) : List Argument → Bool
  | [] => true
  | .positional (.starred _) :: as => !spread && inOrder named spread as
  | .positional _ :: as => !named && inOrder named spread as
  | .keyword .. :: as => inOrder true spread as
  | .spread _ :: as => inOrder true true as

def positionals : List Argument → List Expr
  | [] => []
  | .positional e :: as => e :: positionals as
  | _ :: as => positionals as

def keywordArguments : List Argument → List (Option String × Expr)
  | [] => []
  | .keyword x e :: as => (some x, e) :: keywordArguments as
  | .spread e :: as => (none, e) :: keywordArguments as
  | _ :: as => keywordArguments as

/-- Whether a generator without brackets of its own may start with this argument. -/
def generatorItem : Argument → Option Expr
  | .positional (.starred _) => none
  | .positional e => some e
  | _ => none

/-- The arguments up to the closing bracket: none, one generator without brackets of its own where
`generators` allows it, or a list of arguments in an allowed order. -/
def arguments (generators : Bool) : Parser (List Argument) := do
  if ← accepts (op ")") then
    op ")"
    return []
  else
    let a ← argument r
    if ← startsClause then
      match generatorItem a, generators with
      | some e, true =>
        let cs ← clauses r
        op ")"
        return [.positional (.generator e cs)]
      | _, _ => fail
    else
      let as ← many (do op ","; argument r) r.bound
      let _ ← optional (op ",")
      op ")"
      if inOrder false false (a :: as) then return a :: as else fail

def trailer : Parser (Expr → Expr) :=
  (do
    op "."
    let x ← identifier
    return fun e => .attribute e x) <|>
  (do
    op "("
    let as ← arguments r true
    return fun e => .call e (positionals as) (keywordArguments as)) <|>
  (do
    op "["
    let s ← slices r
    op "]"
    return fun e => .subscript e s)

def primary : Parser Expr := do
  let e ← atom r
  let ts ← many (trailer r) r.bound
  return ts.foldl (fun e t => t e) e

def awaitPrimary : Parser Expr :=
  (do
    word "await"
    let e ← primary r
    return .await e) <|> primary r

def power : Parser Expr := do
  let e ← awaitPrimary r
  (do
    op "**"
    let f ← r.factor
    return .binary .pow e f) <|> pure e

def factor : Parser Expr :=
  (do
    let o ← anyOp [("+", UnaryOp.plus), ("-", .minus), ("~", .invert)]
    let e ← r.factor
    return .unary o e) <|> power r

def leftAssociative (table : List (String × BinaryOp)) (operand : Parser Expr) : Parser Expr := do
  let e ← operand
  let rest ← many (do
    let o ← anyOp table
    let f ← operand
    return (o, f)) r.bound
  return rest.foldl (fun e (o, f) => .binary o e f) e

def term : Parser Expr :=
  leftAssociative r [("*", .mul), ("/", .div), ("//", .floorDiv), ("%", .mod), ("@", .matMul)] (factor r)

def sum : Parser Expr := leftAssociative r [("+", .add), ("-", .sub)] (term r)

def shift : Parser Expr := leftAssociative r [("<<", .shiftLeft), (">>", .shiftRight)] (sum r)

def bitwiseAnd : Parser Expr := leftAssociative r [("&", .bitAnd)] (shift r)

def bitwiseXor : Parser Expr := leftAssociative r [("^", .bitXor)] (bitwiseAnd r)

def bitwiseOr : Parser Expr := leftAssociative r [("|", .bitOr)] (bitwiseXor r)

def comparisonOp : Parser CompareOp :=
  anyOp [("==", .eq), ("!=", .ne), ("<=", .le), ("<", .lt), (">=", .ge), (">", .gt)] <|>
  (do word "not"; word "in"; return .notMember) <|>
  (do word "in"; return .member) <|>
  (do word "is"; word "not"; return .notSame) <|>
  (do word "is"; return .same)

def comparison : Parser Expr := do
  let e ← bitwiseOr r
  let rest ← many (do
    let o ← comparisonOp
    let f ← bitwiseOr r
    return (o, f)) r.bound
  return if rest.isEmpty then e else .compare e rest

def inversion : Parser Expr :=
  (do
    word "not"
    let e ← r.inversion
    return .unary .not e) <|> comparison r

def conjunction : Parser Expr := do
  let e ← inversion r
  let rest ← many (do word "and"; inversion r) r.bound
  return if rest.isEmpty then e else .and (e :: rest)

def disjunction : Parser Expr := do
  let e ← conjunction r
  let rest ← many (do word "or"; conjunction r) r.bound
  return if rest.isEmpty then e else .or (e :: rest)

inductive Parameter where
  | plain (p : Param Expr)
  | slash
  | star
  | rest (p : Param Expr)
  | keywords (p : Param Expr)

/-- Parameters of a function (`annotated`) or of a lambda. -/
def parameter (annotated : Bool) : Parser Parameter :=
  let hint (p : Parser Expr) : Parser (Option Expr) :=
    if annotated then optional (do op ":"; p) else pure none
  (do op "/"; return .slash) <|>
  (do
    op "**"
    let x ← identifier
    let a ← hint r.expression
    return .keywords ⟨x, a, none⟩) <|>
  (do
    op "*"
    let x ← identifier
    let a ← hint (starExpression r)
    return .rest ⟨x, a, none⟩) <|>
  (do op "*"; return .star) <|>
  (do
    let x ← identifier
    let a ← hint r.expression
    let d ← optional (do op "="; r.expression)
    return .plain ⟨x, a, d⟩)

def afterStar (ps : Params Expr) : List Parameter → Option (Params Expr)
  | [] => some ps
  | [.keywords k] => some { ps with keywords := some k }
  | .plain p :: more => afterStar { ps with keywordOnly := ps.keywordOnly ++ [p] } more
  | _ => none

/-- Adds parameters before any star. Once one has a default the ones after it need one too. -/
def beforeStar (ps : Params Expr) (slashed defaulted : Bool) : List Parameter → Option (Params Expr)
  | [] => some ps
  | .plain p :: more =>
    if defaulted && p.default.isNone then none
    else beforeStar { ps with regular := ps.regular ++ [p] } slashed (defaulted || p.default.isSome) more
  | .slash :: more =>
    if slashed || ps.regular.isEmpty then none
    else beforeStar { ps with positionalOnly := ps.regular, regular := [] } true defaulted more
  | [.keywords k] => some { ps with keywords := some k }
  | .rest p :: more => afterStar { ps with rest := some p } more
  | .star :: .plain p :: more => afterStar ps (.plain p :: more)
  | _ => none

/-- Parameters up to a closing token, which is not used up. -/
def parameters (annotated : Bool) (close : String) : Parser (Params Expr) := do
  if ← accepts (op close) then return {}
  else
    let (ps, _) ← commaListTrailing r.bound (parameter r annotated)
    if ← accepts (op close) then
      match beforeStar {} false false ps with
      | some ps => return ps
      | none => fail
    else fail

def lambda : Parser Expr := do
  word "lambda"
  let ps ← parameters r false ":"
  op ":"
  let e ← r.expression
  return .lambda ps e

def expression : Parser Expr :=
  (do
    let e ← disjunction r
    (do
      word "if"
      let test ← disjunction r
      word "else"
      let orElse ← r.expression
      return .ifElse test e orElse) <|> pure e) <|> lambda r

def Rules.next (r : Rules) : Rules where
  bound := r.bound
  primary := Grammar.primary r
  factor := Grammar.factor r
  bitwiseOr := Grammar.bitwiseOr r
  inversion := Grammar.inversion r
  disjunction := Grammar.disjunction r
  expression := Grammar.expression r

def rules (bound n : Nat) : Rules := Nat.repeat Rules.next n ⟨bound, fail, fail, fail, fail, fail, fail⟩

end IssuePlanner.Outline.Script.Grammar
