import IssuePlanner.Outline.Script.Grammar.Expression

/-! The grammar of the patterns in `case` blocks. An outline does not look at patterns, so they are only
recognised. -/

namespace IssuePlanner.Outline.Script.Grammar

structure PatternRules where
  pattern : Parser Unit
  closed : Parser Unit

def isImaginary : Constant → Bool
  | .imaginary _ => true
  | _ => false

/-- A number, with its sign if it has one, that is or is not imaginary. -/
def partNumber (signed imaginary : Bool) : Parser Unit := do
  if signed then
    let _ ← optional (op "-")
  let c ← numberLiteral
  if isImaginary c = imaginary then return () else fail

def signedNumber : Parser Unit := do
  let _ ← optional (op "-")
  let _ ← numberLiteral

def complexNumber : Parser Unit := do
  partNumber true false
  op "+" <|> op "-"
  partNumber false true

def literalPattern (r : Rules) : Parser Unit :=
  (do
    signedNumber
    notFollowedBy (op "+" <|> op "-")) <|>
  complexNumber <|>
  (do let _ ← strings r) <|>
  word "None" <|> word "True" <|> word "False"

def notCalledOrDotted : Parser Unit := notFollowedBy (op "." <|> op "(" <|> op "=")

def captureTarget : Parser Unit := do
  let x ← identifier
  if x = "_" then fail else notCalledOrDotted

def wildcard : Parser Unit := word "_"

/-- A name, with fields if there are any; tells whether there are. -/
def dottedName (bound : Nat) : Parser Bool := do
  let _ ← identifier
  let fields ← many (do op "."; identifier) bound
  return !fields.isEmpty

def valuePattern (bound : Nat) : Parser Unit := do
  if ← dottedName bound then notCalledOrDotted else fail

def starPattern : Parser Unit := do
  op "*"
  captureTarget <|> wildcard

variable (r : Rules) (p : PatternRules)

def maybeStarPattern : Parser Unit := starPattern <|> p.pattern

def maybeSequence : Parser Unit := do
  let _ ← commaListTrailing r.bound (maybeStarPattern p)

def openSequence : Parser Unit := do
  maybeStarPattern p
  op ","
  let _ ← optional (maybeSequence r p)

def keyValuePattern : Parser Unit := do
  literalPattern r <|> (do
    if ← dottedName r.bound then return () else fail)
  op ":"
  p.pattern

def doubleStarPattern : Parser Unit := do
  op "**"
  captureTarget

def mappingPattern : Parser Unit := do
  op "\x7b"
  (do op "\x7d") <|>
  (do
    doubleStarPattern
    let _ ← optional (op ",")
    op "\x7d") <|>
  (do
    let _ ← commaList r.bound (keyValuePattern r p)
    let _ ← optional (do op ","; doubleStarPattern)
    let _ ← optional (op ",")
    op "\x7d")

def keywordPattern : Parser Unit := do
  let _ ← identifier
  op "="
  p.pattern

def classPattern : Parser Unit := do
  let _ ← dottedName r.bound
  op "("
  (do op ")") <|>
  (do
    let _ ← commaList r.bound p.pattern
    let _ ← optional (do op ","; commaList r.bound (keywordPattern p))
    let _ ← optional (op ",")
    op ")") <|>
  (do
    let _ ← commaList r.bound (keywordPattern p)
    let _ ← optional (op ",")
    op ")")

def closedPattern : Parser Unit :=
  literalPattern r <|> captureTarget <|> wildcard <|> valuePattern r.bound <|>
  (do
    op "("
    (do op ")") <|> (do p.pattern; op ")") <|> (do openSequence r p; op ")")) <|>
  (do
    op "["
    let _ ← optional (maybeSequence r p)
    op "]") <|>
  mappingPattern r p <|> classPattern r p

def pattern : Parser Unit := do
  let _ ← p.closed
  let _ ← many (do op "|"; p.closed) r.bound
  let _ ← optional (do word "as"; captureTarget)

def patternRules (r : Rules) : Nat → PatternRules
  | 0 => ⟨fail, fail⟩
  | n + 1 =>
    let p := patternRules r n
    ⟨pattern r p, closedPattern r p⟩

def patterns : Parser Unit :=
  openSequence r p <|> p.pattern

end IssuePlanner.Outline.Script.Grammar
