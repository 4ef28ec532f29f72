import IssuePlanner.Outline.Script.Grammar.Pattern

/-! The grammar of statements and of whole scripts in Python 3.11, so without `type` statements and type parameters.
Of most statements only their being well formed matters; they all become `Stmt.other`. -/

namespace IssuePlanner.Outline.Script.Grammar

def augmentedOps : List String :=
  ["+=", "-=", "*=", "@=", "/=", "%=", "&=", "|=", "^=", "<<=", ">>=", "**=", "//="]

variable (r : Rules)

def assigned : Parser Expr := yieldExpression r <|> starExpressions r

def assignedChain : Nat → Expr → Parser (List Expr)
  | 0, _ => fail
  | n + 1, target => do
    if !isTarget target then fail
    else
      op "="
      let e ← assigned r
      if ← accepts (op "=") then
        let more ← assignedChain n e
        return target :: more
      else return [target]

def expressionStatement : Parser Stmt := do
  let e ← starExpressions r
  if ← accepts (op ":") then
    if !isSinglePlace e then fail
    else
      op ":"
      let hint ← r.expression
      let _ ← optional (do op "="; assigned r)
      return .annotate e hint
  else if ← accepts (op "=") then .assign <$> assignedChain r r.bound e
  else
    let augmented ← optional (anyOp (augmentedOps.map fun o => (o, ())))
    match augmented with
    | some _ =>
      if isSinglePlace e then
        let _ ← assigned r
        return .other
      else fail
    | none => return .expression e

def dotted (bound : Nat) : Parser Unit := do
  let _ ← dottedName bound

def asName : Parser Unit := do
  let _ ← optional (do word "as"; identifier)

def importNames (bound : Nat) : Parser Unit := do
  let _ ← commaList bound (do dotted bound; asName)

def importedNames (bound : Nat) : Parser Unit :=
  let name : Parser Unit := do
    let _ ← identifier
    asName
  op "*" <|>
  (do
    op "("
    let _ ← commaListTrailing bound name
    op ")") <|>
  (do
    let _ ← commaList bound name
    notFollowedBy (op ","))

def importFrom (bound : Nat) : Parser Unit := do
  let dots ← many (op "." <|> op "...") bound
  if dots.isEmpty then dotted bound
  else
    let _ ← optional (dotted bound)
  word "import"
  importedNames bound

def deletion : Parser Unit := do
  let (es, _) ← commaListTrailing r.bound r.primary
  if es.all isDeletable then return () else fail

def simpleStatement : Parser Stmt := do
  let done (p : Parser Unit) : Parser Stmt := do p; return .other
  match ← peek with
  | some (.name "return") => done do word "return"; let _ ← optional (starExpressions r)
  | some (.name "import") => done do word "import"; importNames r.bound
  | some (.name "from") => done do word "from"; importFrom r.bound
  | some (.name "raise") => done do
    word "raise"
    let _ ← optional (do
      let _ ← r.expression
      optional (do word "from"; r.expression))
  | some (.name "pass") => done (word "pass")
  | some (.name "break") => done (word "break")
  | some (.name "continue") => done (word "continue")
  | some (.name "del") => done do word "del"; deletion r
  | some (.name "yield") => .expression <$> yieldExpression r
  | some (.name "assert") => done do
    word "assert"
    let _ ← r.expression
    let _ ← optional (do op ","; r.expression)
  | some (.name "global") => done do word "global"; let _ ← commaList r.bound identifier
  | some (.name "nonlocal") => done do word "nonlocal"; let _ ← commaList r.bound identifier
  | _ => expressionStatement r

def simpleStatements : Parser (List Stmt) := do
  let s ← simpleStatement r
  let more ← many (do op ";"; simpleStatement r) r.bound
  let _ ← optional (op ";")
  token .newline
  return s :: more

structure BlockRules where
  statement : Parser (List Stmt)
  patterns : PatternRules

variable (b : BlockRules)

def statements : Parser (List Stmt) := do
  let ss ← many1 r.bound b.statement
  return ss.flatten

def block : Parser (List Stmt) :=
  (do
    token .newline
    token .indent
    let ss ← statements r b
    token .dedent
    return ss) <|> simpleStatements r

def colonBlock : Parser (List Stmt) := do
  op ":"
  block r b

def elseBlock : Parser Unit := do
  word "else"
  let _ ← colonBlock r b

def ifStatement : Parser Unit := do
  word "if"
  let _ ← namedExpression r
  let _ ← colonBlock r b
  let _ ← many (do
    word "elif"
    let _ ← namedExpression r
    colonBlock r b) r.bound
  let _ ← optional (elseBlock r b)

def whileStatement : Parser Unit := do
  word "while"
  let _ ← namedExpression r
  let _ ← colonBlock r b
  let _ ← optional (elseBlock r b)

def forStatement : Parser Unit := do
  word "for"
  let _ ← starTargets r
  word "in"
  let _ ← starExpressions r
  let _ ← colonBlock r b
  let _ ← optional (elseBlock r b)

def withItem : Parser Unit := do
  let _ ← r.expression
  let _ ← optional (do
    word "as"
    let _ ← starTarget r
    if ← accepts (op "," <|> op ")" <|> op ":") then return () else fail)

def withItems : Parser Unit :=
  (do
    op "("
    let _ ← commaListTrailing r.bound (withItem r)
    op ")"
    op ":") <|>
  (do
    let _ ← commaList r.bound (withItem r)
    op ":")

def withStatement : Parser Unit := do
  word "with"
  withItems r
  let _ ← block r b

/-- A block that handles exceptions; those of one statement all have a star or none has. -/
def exceptBlock (starred : Bool) : Parser Unit := do
  word "except"
  if starred then op "*"
  if starred || !(← accepts (op ":")) then
    let _ ← r.expression
    asName
  let _ ← colonBlock r b

def finallyBlock : Parser Unit := do
  word "finally"
  let _ ← colonBlock r b

def tryStatement : Parser Unit := do
  word "try"
  let _ ← colonBlock r b
  finallyBlock r b <|> (do
    let starred ← accepts (do word "except"; op "*")
    let _ ← many1 r.bound (exceptBlock r b starred)
    let _ ← optional (elseBlock r b)
    let _ ← optional (finallyBlock r b))

def caseBlock : Parser Unit := do
  word "case"
  patterns r b.patterns
  let _ ← optional (do word "if"; namedExpression r)
  let _ ← colonBlock r b

def matchSubject : Parser Unit := do
  let e ← starNamedExpression r
  if ← accepts (op ",") then
    op ","
    let _ ← optional (commaListTrailing r.bound (starNamedExpression r))
  else if isStarred e then fail

def matchHead : Parser Unit := do
  word "match"
  matchSubject r
  op ":"
  token .newline
  token .indent

def matchStatement : Parser Unit := do
  matchHead r
  let _ ← many1 r.bound (caseBlock r b)
  token .dedent

def functionStatement (isAsync : Bool) : Parser Stmt := do
  word "def"
  let x ← identifier
  op "("
  let ps ← parameters r true ")"
  op ")"
  let result ← optional (do op "->"; r.expression)
  let body ← colonBlock r b
  return .functionDef isAsync x ps result body

def classStatement : Parser Stmt := do
  word "class"
  let x ← identifier
  let as ← optional (do op "("; arguments r false)
  let body ← colonBlock r b
  return .classDef x (positionals (as.getD [])) body

def definition : Parser Stmt :=
  functionStatement r b false <|>
  (do
    word "async"
    functionStatement r b true) <|>
  classStatement r b

def decorated : Parser Stmt := do
  let _ ← many1 r.bound (do
    op "@"
    let _ ← namedExpression r
    token .newline)
  definition r b

def asyncStatement : Parser Stmt := do
  word "async"
  functionStatement r b true <|>
  (do withStatement r b; return .other) <|>
  (do forStatement r b; return .other)

def statement : Parser (List Stmt) := do
  let one (p : Parser Stmt) : Parser (List Stmt) := do return [← p]
  let other (p : Parser Unit) : Parser (List Stmt) := do p; return [.other]
  match ← peek with
  | some (.name "def") => one (functionStatement r b false)
  | some (.op "@") => one (decorated r b)
  | some (.name "async") => one (asyncStatement r b)
  | some (.name "class") => one (classStatement r b)
  | some (.name "if") => other (ifStatement r b)
  | some (.name "with") => other (withStatement r b)
  | some (.name "for") => other (forStatement r b)
  | some (.name "try") => other (tryStatement r b)
  | some (.name "while") => other (whileStatement r b)
  | some (.name "match") =>
    if ← accepts (matchHead r) then other (matchStatement r b) else simpleStatements r
  | _ => simpleStatements r

def blockRules (r : Rules) (p : PatternRules) : Nat → BlockRules
  | 0 => ⟨fail, p⟩
  | n + 1 => ⟨statement r (blockRules r p n), p⟩

def script? (source : List Char) : Option (List Stmt) := do
  let ts ← Lexer.tokens? source
  let bound := 2 * source.length + 8
  let r := rules bound bound
  -- a level of patterns for either side of a bracket, a level of statements for a block
  let p := patternRules r (2 * Lexer.bracketLimit + 4)
  let b := blockRules r p (Lexer.blockLimit + 2)
  let (ss, rest) ← (many b.statement bound) ts
  if rest.isEmpty then return ss.flatten else none

end IssuePlanner.Outline.Script.Grammar
