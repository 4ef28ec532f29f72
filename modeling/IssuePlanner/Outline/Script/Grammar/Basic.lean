import IssuePlanner.Outline.Script.Expr
import IssuePlanner.Outline.Script.Token
import IssuePlanner.Text.NormalForm

/-! Parsers of tokens. A parser that fails uses nothing up, so `p <|> q` tries `q` where `p` started. The grammar that
is built from them is that of Python 3.11. -/

namespace IssuePlanner.Outline.Script.Grammar

abbrev Parser := StateT (List Token) Option

variable {α β : Type}

def fail : Parser α := fun _ => none

def peek : Parser (Option Token) := fun ts => some (ts.head?, ts)

def satisfy (f : Token → Option α) : Parser α
  | [] => none
  | t :: ts => (f t).map (·, ts)

def token (t : Token) : Parser Unit := satisfy fun u => if u = t then some () else none

def op (s : String) : Parser Unit := token (.op s)

/-- A given word, whether it is a keyword or has its meaning only here. -/
def word (s : String) : Parser Unit := token (.name s)

/-- A name, in the form that all ways to write it share. Keywords are known by how they are written. -/
def identifier : Parser String := satisfy fun
  | .name s => if keywords.contains s then none else some (String.ofList (Text.normalForm s.toList))
  | _ => none

def accepts (p : Parser α) : Parser Bool := fun ts => some ((p ts).isSome, ts)

/-- Fails where `p` succeeds, and uses nothing up. -/
def notFollowedBy (p : Parser α) : Parser Unit := fun ts =>
  if (p ts).isSome then none else some ((), ts)

def optional (p : Parser α) : Parser (Option α) := some <$> p <|> pure none

/-- As many `p` as there are, at most `bound`. -/
def many (p : Parser α) : (bound : Nat) → Parser (List α)
  | 0 => pure []
  | n + 1 => (do
      let a ← p
      let as ← many p n
      return a :: as) <|> pure []

def many1 (bound : Nat) (p : Parser α) : Parser (List α) := do
  let a ← p
  let as ← many p bound
  return a :: as

def commaList (bound : Nat) (p : Parser α) : Parser (List α) := do
  let a ← p
  let as ← many (do op ","; p) bound
  return a :: as

/-- One or more `p` with commas between them, and whether a further comma follows. -/
def commaListTrailing (bound : Nat) (p : Parser α) : Parser (List α × Bool) := do
  let as ← commaList bound p
  let trailing ← optional (op ",")
  return (as, trailing.isSome)

def anyOp (table : List (String × α)) : Parser α := satisfy fun
  | .op s => (table.find? (·.1 = s)).map (·.2)
  | _ => none

end IssuePlanner.Outline.Script.Grammar
