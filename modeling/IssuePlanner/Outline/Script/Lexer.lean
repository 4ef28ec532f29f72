import IssuePlanner.Outline.Script.Token

/-! Cutting a script into tokens, by the rules of Python 3.11. Columns are counted twice, with tab stops of eight
and of one, and both counts must agree on the block a line belongs to. Inside brackets line ends and columns mean
nothing. -/

namespace IssuePlanner.Outline.Script.Lexer

def bracketLimit : Nat := 200

def blockLimit : Nat := 100

structure State where
  rest : List Char
  atLineStart : Bool := true
  /-- The columns of the open blocks, innermost first; the outermost block is not listed. -/
  blocks : List (Nat × Nat) := []
  brackets : List Char := []
  /-- The tokens so far, last one first. -/
  tokens : List Token := []

/-- The columns at which a line starts, and the columns at which it was first broken by a backslash. -/
structure Margin where
  wide : Nat := 0
  narrow : Nat := 0
  broken : Nat := 0

/-- The blanks at the start of a line. A backslash that ends the line needs a further line. -/
def margin (m : Margin) : List Char → Option (Margin × List Char)
  | ' ' :: r => margin { m with wide := m.wide + 1, narrow := m.narrow + 1 } r
  | '\t' :: r => margin { m with wide := (m.wide / 8 + 1) * 8, narrow := m.narrow + 1 } r
  | '\x0c' :: r => margin { m with wide := 0, narrow := 0 } r
  | ['\\', '\n'] => none
  | '\\' :: '\n' :: r => margin { m with broken := if m.broken = 0 then m.wide else m.broken } r
  | '\\' :: _ => none
  | r => some (m, r)

/-- Closes the blocks that lie deeper than column `wide`. -/
def closeBlocks (wide : Nat) : List (Nat × Nat) → List (Nat × Nat) × Nat
  | [] => ([], 0)
  | b :: bs =>
    if wide < b.1 then
      let (bs, n) := closeBlocks wide bs
      (bs, n + 1)
    else (b :: bs, 0)

def enterLine (blocks : List (Nat × Nat)) (wide narrow : Nat) :
    Option (List (Nat × Nat) × List Token) :=
  let top := blocks.headD (0, 0)
  if wide = top.1 then if narrow = top.2 then some (blocks, []) else none
  else if top.1 < wide then
    if blockLimit ≤ blocks.length + 1 || narrow ≤ top.2 then none
    else some ((wide, narrow) :: blocks, [.indent])
  else
    let (left, n) := closeBlocks wide blocks
    if left.headD (0, 0) = (wide, narrow) then some (left, List.replicate n .dedent) else none

def isLetterLike (c : Char) : Bool := c.isAlphanum || c = '_' || 128 ≤ c.toNat

/-- The digits of a group that underscores may divide: none at its ends, one between two digits. -/
def digitRun (isDigit : Char → Bool) : List Char → Option (List Char × List Char)
  | [] => some ([], [])
  | '_' :: c :: r => if isDigit c then more c r else none
  | ['_'] => none
  | c :: r => if isDigit c then more c r else some ([], c :: r)
where
  more (c : Char) (r : List Char) : Option (List Char × List Char) :=
    (digitRun isDigit r).map fun (ds, r) => (c :: ds, r)

/-- Whether a number may end here: before a character that is no part of a word, or before one of the
words that can follow a number. -/
def endsNumber (r : List Char) : Bool :=
  !(r.head?.any isLetterLike)
    || ["and", "else", "for", "if", "in", "is", "or", "not"].any fun w => w.toList.isPrefixOf r

def isOctal (c : Char) : Bool := '0' ≤ c && c ≤ '7'

def isBinary (c : Char) : Bool := c = '0' || c = '1'

def isHex (c : Char) : Bool := c.isDigit || ('a' ≤ c && c ≤ 'f') || ('A' ≤ c && c ≤ 'F')

/-- A number after its base letter `x`. -/
def basedNumber (x : Char) (isDigit : Char → Bool) (r : List Char) : Option (List Char × List Char) :=
  match digitRun isDigit r with
  | some (ds@(_ :: _), r) =>
    if r.head?.any Char.isDigit || !endsNumber r then none else some ('0' :: x :: ds, r)
  | _ => none

/-- What follows the digits of a decimal number: an exponent, a mark for an imaginary number, or the end. -/
def numberTail (out r : List Char) : Option (List Char × List Char) :=
  match r with
  | e :: r' =>
    if e = 'e' || e = 'E' then
      match r' with
      | s :: d :: r'' =>
        if s = '+' || s = '-' then
          if d.isDigit then finish (out ++ [e, s]) (d :: r'') else none
        else if s.isDigit then finish (out ++ [e]) r'
        else if endsNumber r then some (out, r) else none
      | [d] =>
        if d.isDigit then finish (out ++ [e]) r'
        else if d = '+' || d = '-' then none
        else if endsNumber r then some (out, r) else none
      | [] => if endsNumber r then some (out, r) else none
    else imaginary out r
  | [] => some (out, [])
where
  finish (out r : List Char) : Option (List Char × List Char) :=
    match digitRun Char.isDigit r with
    | some (ds, r) => imaginary (out ++ ds) r
    | none => none
  imaginary (out r : List Char) : Option (List Char × List Char) :=
    match r with
    | c :: r' =>
      if c = 'j' || c = 'J' then if endsNumber r' then some (out ++ ['j'], r') else none
      else if endsNumber r then some (out, r) else none
    | [] => some (out, [])

def fraction (out r : List Char) : Option (List Char × List Char) :=
  if r.head?.any Char.isDigit then
    match digitRun Char.isDigit r with
    | some (ds, r) => numberTail (out ++ ds) r
    | none => none
  else numberTail out r

/-- A number that starts with a digit or with a point before a digit, without its underscores. -/
def number (cs : List Char) : Option (List Char × List Char) :=
  match cs with
  | '.' :: r => fraction ['.'] r
  | '0' :: x :: r =>
    if x = 'x' || x = 'X' then basedNumber 'x' isHex r
    else if x = 'o' || x = 'O' then basedNumber 'o' isOctal r
    else if x = 'b' || x = 'B' then basedNumber 'b' isBinary r
    else decimal cs
  | _ => decimal cs
where
  decimal (cs : List Char) : Option (List Char × List Char) :=
    match digitRun Char.isDigit cs with
    | none => none
    | some (ds, r) =>
      match r with
      | '.' :: r => fraction (ds ++ ['.']) r
      | _ =>
        match numberTail ds r with
        | none => none
        | some (out, r) =>
          -- a whole number other than zero starts with no zero
          if out.length = ds.length && ds.head? = some '0' && ds.any (· ≠ '0') then none
          else some (out, r)

def stringBody (quote : Char) (triple : Bool) (out : List Char) : List Char →
    Option (List Char × List Char)
  | [] => none
  | '\\' :: c :: r => stringBody quote triple (c :: '\\' :: out) r
  | c :: r =>
    if c = quote then
      if triple then
        match r with
        | d :: e :: r' =>
          if d = quote && e = quote then some (out.reverse, r') else stringBody quote triple (c :: out) r
        | _ => none
      else some (out.reverse, r)
    else if c = '\n' && !triple then none
    else stringBody quote triple (c :: out) r

def stringFrom (letters : List Char) (quote : Char) (r : List Char) : Option (Token × List Char) :=
  let token (body : List Char) : Token :=
    .string ⟨letters.map Char.toLower, letters.head? = some 'u', body⟩
  match r with
  | a :: b :: r' =>
    if a = quote then
      if b = quote then (stringBody quote true [] r').map fun (body, r) => (token body, r)
      else some (token [], b :: r')
    else (stringBody quote false [] r).map fun (body, r) => (token body, r)
  | [a] => if a = quote then some (token [], []) else none
  | [] => none

def operator (brackets : List Char) (c : Char) (cs r : List Char) :
    Option (Token × List Char × List Char) :=
  match longOperators.find? fun o => o.toList.isPrefixOf cs with
  | some o => some (.op o, brackets, cs.drop o.length)
  | none =>
    let token := Token.op (String.ofList [c])
    if c = '(' || c = '[' || c = '\x7b' then
      if bracketLimit ≤ brackets.length then none else some (token, c :: brackets, r)
    else match opening? c with
      | some o =>
        match brackets with
        | b :: bs => if b = o then some (token, bs, r) else none
        | [] => none
      | none => some (token, brackets, r)

def startLine (s : State) : Option State := do
  let (m, rest) ← margin {} s.rest
  let blank := rest.head? = some '#' || rest.head? = some '\n'
  if blank then
    let rest := (rest.dropWhile (· ≠ '\n')).drop 1
    return { s with rest }
  else if !s.brackets.isEmpty then return { s with rest, atLineStart := false }
  else
    let wide := if m.broken = 0 then m.wide else m.broken
    let narrow := if m.broken = 0 then m.narrow else m.broken
    let (blocks, tokens) ← enterLine s.blocks wide narrow
    return { s with rest, atLineStart := false, blocks, tokens := tokens ++ s.tokens }

def insideLine (s : State) : Option State :=
  let cs := s.rest.dropWhile fun c => c = ' ' || c = '\t' || c = '\x0c'
  match cs with
  | [] => some { s with rest := [] }
  | '#' :: r => some { s with rest := r.dropWhile (· ≠ '\n') }
  | '\n' :: r =>
    some { s with
      rest := r, atLineStart := true
      tokens := if s.brackets.isEmpty then .newline :: s.tokens else s.tokens }
  | ['\\', '\n'] => none
  | '\\' :: '\n' :: r => some { s with rest := r }
  | '\\' :: _ => none
  | c :: r =>
    let put (t : Token) (rest : List Char) : State := { s with rest, tokens := t :: s.tokens }
    if c.isDigit || (c = '.' && r.head?.any Char.isDigit) then
      (number cs).map fun (lexeme, rest) => put (.number lexeme) rest
    else if isLetterLike c then
      let word := cs.takeWhile isLetterLike
      let rest := cs.drop word.length
      match rest with
      | q :: rest' =>
        if (q = '"' || q = '\'') && stringLetters.contains (word.map Char.toLower) then
          (stringFrom word q rest').map fun (t, rest) => put t rest
        else if Text.isIdentifier word then some (put (.name (String.ofList word)) rest) else none
      | [] => if Text.isIdentifier word then some (put (.name (String.ofList word)) rest) else none
    else if c = '"' || c = '\'' then (stringFrom [] c r).map fun (t, rest) => put t rest
    else
      (operator s.brackets c cs r).map fun (t, brackets, rest) => { put t rest with brackets }

/-- Runs until the text is used up; the first argument bounds the number of steps. -/
def run : Nat → State → Option State
  | 0, _ => none
  | n + 1, s =>
    if s.rest.isEmpty then some s
    else (if s.atLineStart then startLine s else insideLine s).bind (run n)

def tokens? (source : List Char) : Option (List Token) := do
  if source.contains '\x00' then none
  else
    let source := if source.getLast? = some '\n' then source else source ++ ['\n']
    let s ← run (2 * source.length + 2) { rest := source }
    if s.brackets.isEmpty && s.atLineStart then
      return s.tokens.reverse ++ s.blocks.map fun _ => .dedent
    else none

end IssuePlanner.Outline.Script.Lexer
