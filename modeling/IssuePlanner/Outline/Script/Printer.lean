import IssuePlanner.Number.Written
import IssuePlanner.Outline.Script.Expr
import IssuePlanner.Text.Quoted
import IssuePlanner.Text.Search

/-! Writing expressions back as text, with as few brackets as their strengths allow. An expression is
written at a `level`, and takes brackets when the level is above its own strength.

Two things cannot be written: a whole number with too many digits, and a value inside a text that needs a
backslash. -/

namespace IssuePlanner.Outline.Script.Printer

inductive Strength where
  | named | tuple | yield | test | or | and | not | compare | bitOr | bitXor | bitAnd | shift | sum | term
  | factor | power | await | atom
  deriving DecidableEq, Repr

namespace Strength

def rank : Strength → Nat
  | named => 1 | tuple => 2 | yield => 3 | test => 4 | or => 5 | and => 6 | not => 7 | compare => 8
  | bitOr => 9 | bitXor => 10 | bitAnd => 11 | shift => 12 | sum => 13 | term => 14 | factor => 15
  | power => 16 | await => 17 | atom => 18

/-- The next stronger one; nothing is stronger than an atom. -/
def next : Strength → Strength
  | named => tuple | tuple => yield | yield => test | test => or | or => and | and => not | not => compare
  | compare => bitOr | bitOr => bitXor | bitXor => bitAnd | bitAnd => shift | shift => sum | sum => term
  | term => factor | factor => power | power => await | await => atom | atom => atom

end Strength

def bracketIf (b : Bool) (s : String) : String := if b then "(" ++ s ++ ")" else s

def bracketAbove (level own : Strength) (s : String) : String := bracketIf (own.rank < level.rank) s

def BinaryOp.strength : BinaryOp → Strength
  | .bitOr => .bitOr
  | .bitXor => .bitXor
  | .bitAnd => .bitAnd
  | .shiftLeft | .shiftRight => .shift
  | .add | .sub => .sum
  | .mul | .matMul | .div | .mod | .floorDiv => .term
  | .pow => .power

def BinaryOp.sign : BinaryOp → String
  | .bitOr => "|" | .bitXor => "^" | .bitAnd => "&" | .shiftLeft => "<<" | .shiftRight => ">>"
  | .add => "+" | .sub => "-" | .mul => "*" | .matMul => "@" | .div => "/" | .mod => "%"
  | .floorDiv => "//" | .pow => "**"

def UnaryOp.sign : UnaryOp → String
  | .plus => "+" | .minus => "-" | .invert => "~" | .not => "not "

def CompareOp.sign : CompareOp → String
  | .eq => "==" | .ne => "!=" | .lt => "<" | .le => "<=" | .gt => ">" | .ge => ">=" | .same => "is"
  | .notSame => "is not" | .member => "in" | .notMember => "not in"

/-! ### Texts -/

def isSurrogate (n : Nat) : Bool := 0xd800 ≤ n && n < 0xe000

def codesOf (s : String) : List Nat := s.toList.map Char.toNat

def ofCodes (codes : List Nat) : String := String.ofList (codes.map Char.ofNat)

def isPrintableCode (n : Nat) : Bool := !isSurrogate n && Text.isPrintable (Char.ofNat n)

/-- The quoted form of code points, without its quotes, and the quote. -/
def quotedBody (codes : List Nat) : List Nat × Nat :=
  let quote := if codes.contains 39 && !codes.contains 34 then 34 else 39
  let one (n : Nat) : List Nat :=
    if isSurrogate n then (Text.numberEscape n).map Char.toNat
    else (Text.quoteChar (Char.ofNat quote) (Char.ofNat n)).map Char.toNat
  (codes.flatMap one, quote)

def quotedText (codes : List Nat) : String :=
  let (body, q) := quotedBody codes
  ofCodes (q :: body ++ [q])

def quotedBytes (values : List Nat) : String :=
  let quote := if values.contains 39 && !values.contains 34 then 34 else 39
  let one (n : Nat) : List Nat :=
    if n = quote || n = 92 then [92, n]
    else if n = 9 then [92, 't'.toNat]
    else if n = 10 then [92, 'n'.toNat]
    else if n = 13 then [92, 'r'.toNat]
    else if 32 ≤ n && n < 127 then [n]
    else 92 :: 'x'.toNat :: (Text.hexDigits 2 n).map Char.toNat
  ofCodes ('b'.toNat :: quote :: values.flatMap one ++ [quote])

/-- The kinds of quotes: a quote, once or three times. -/
structure Quotes where
  quote : Nat
  isTriple : Bool
  deriving DecidableEq

def Quotes.codes (q : Quotes) : List Nat := List.replicate (if q.isTriple then 3 else 1) q.quote

def allQuotes : List Quotes := [⟨39, false⟩, ⟨34, false⟩, ⟨34, true⟩, ⟨39, true⟩]

/-- A code point inside a text: a backslash and what cannot be printed are escaped, tab and line feed only
if `blanks` says so. -/
def escapeCode (blanks : Bool) (n : Nat) : List Nat :=
  if !blanks && (n = 9 || n = 10) then [n]
  else if n = 92 then [92, 92]
  else if isPrintableCode n then [n]
  else if n = 9 then [92, 't'.toNat]
  else if n = 10 then [92, 'n'.toNat]
  else if n = 13 then [92, 'r'.toNat]
  else (Text.numberEscape n).map Char.toNat

def occursIn (pat : List Nat) : List Nat → Bool
  | [] => pat.isEmpty
  | c :: r => pat.isPrefixOf (c :: r) || occursIn pat r

/-- A text with few escapes, and the quotes that may stand around it, the best ones first. -/
def fewEscapes (quotes : List Quotes) (blanks : Bool) (codes : List Nat) : List Nat × List Quotes :=
  let escaped := codes.flatMap (escapeCode blanks)
  let possible := if escaped.contains 10 then quotes.filter (·.isTriple) else quotes
  let possible := possible.filter fun q => !occursIn q.codes escaped
  if possible.isEmpty then
    let (body, q) := quotedBody codes
    (body, [(quotes.find? (·.quote = q)).getD ⟨q, false⟩])
  else match escaped.getLast? with
    | none => (escaped, possible)
    | some last =>
      let possible := possible.filter (·.quote ≠ last) ++ possible.filter (·.quote = last)
      if possible.head?.any (·.quote = last) then (escaped.dropLast ++ [92, last], possible)
      else (escaped, possible)

def around (quotes : List Quotes) (body : List Nat) : String :=
  let q := (quotes.headD ⟨39, false⟩).codes
  ofCodes (q ++ body ++ q)

def textWithFewEscapes (codes : List Nat) : String :=
  let (body, quotes) := fewEscapes allQuotes false codes
  around quotes body

/-- The parts of a text with values, as they stand between quotes that suit all of them; nothing if no
quotes do. A part is a literal text or the text of a value. -/
def fitParts (quotes : List Quotes) : List (List Nat × Bool) → Option (List Nat × List Quotes)
  | [] => some ([], quotes)
  | (codes, isLiteral) :: rest => do
    let (body, possible) := fewEscapes quotes isLiteral codes
    if possible.all fun q => !quotes.contains q then none
    else
      let (more, quotes) ← fitParts possible rest
      return (body ++ more, quotes)

def joinedText (parts : List (List Nat × Bool)) : String :=
  match fitParts allQuotes parts with
  | some (body, quotes) => around quotes body
  | none =>
    -- a double quote in front makes the quoted form use single quotes
    around [⟨39, true⟩] (parts.flatMap fun (codes, _) => (quotedBody (34 :: codes)).1.drop 1)

/-- A literal text between values, where braces are doubled. -/
def doubleBraces (codes : List Nat) : List Nat :=
  codes.flatMap fun n => if n = 123 || n = 125 then [n, n] else [n]

/-! ### Constants -/

/-- The text of a float; an infinite one is written by a literal that is too large. -/
def floatText (whole : List Char) (x : Float) : String :=
  match Number.view x with
  | .nan => "(1e309-1e309)"
  | .infinite negative => if negative then "-1e309" else "1e309"
  | .finite .. => String.ofList (Number.floatChars whole x)

def constant? (plain : Bool) : Constant → Option String
  | .none => some "None"
  | .true => some "True"
  | .false => some "False"
  | .ellipsis => some "..."
  | .int n => if Nat.pow 10 4300 ≤ n then none else some (Number.natText n)
  | .float x => some (floatText ['.', '0'] x)
  | .imaginary x => some (floatText [] x ++ "j")
  | .text marked codes =>
    let s := if plain then textWithFewEscapes codes else quotedText codes
    some (if marked then "u" ++ s else s)
  | .bytes values => some (quotedBytes values)

def isWholeNumber : Expr → Bool
  | .constant (.int _) | .constant .true | .constant .false => true
  | _ => false

/-- Items with commas; a single one is followed by a comma. -/
def items : List String → String
  | [s] => s ++ ","
  | ss => Text.join ", " ss

/-! ### Expressions -/

mutual

/-- Writes an expression. `plain` says that backslashes are to be avoided. -/
def expr? (plain : Bool) (level : Strength) : Expr → Option String
  | .constant c => constant? plain c
  | .name x => some x
  | .attribute e field => do
    let s ← expr? plain .atom e
    return s ++ (if isWholeNumber e then " ." else ".") ++ field
  | .subscript e (.tuple []) => do return (← expr? plain .atom e) ++ "[()]"
  | .subscript e (.tuple (a :: as)) => do
    let s ← expr? plain .atom e
    let a ← expr? plain .test a
    let as ← exprs? plain .test as
    return s ++ "[" ++ items (a :: as) ++ "]"
  | .subscript e slice => do
    let s ← expr? plain .atom e
    return s ++ "[" ++ (← expr? plain .test slice) ++ "]"
  | .slice lower upper step => do
    let lower ← optional? plain .test lower
    let upper ← optional? plain .test upper
    let step ← optional? plain .test step
    return lower.getD "" ++ ":" ++ upper.getD "" ++ (step.map (":" ++ ·)).getD ""
  | .call f as ks => do
    let f ← expr? plain .atom f
    let as ← exprs? plain .test as
    let ks ← keywords? plain ks
    return f ++ "(" ++ Text.join ", " (as ++ ks) ++ ")"
  | .unary op e => do
    let own : Strength := if op = .not then .not else .factor
    return bracketAbove level own (UnaryOp.sign op ++ (← expr? plain own e))
  | .binary op l r => do
    let own := BinaryOp.strength op
    let l ← expr? plain (if op = .pow then own.next else own) l
    let r ← expr? plain (if op = .pow then own else own.next) r
    return bracketAbove level own (l ++ " " ++ BinaryOp.sign op ++ " " ++ r)
  | .or es => do
    return bracketAbove level .or (Text.join " or " (← rising? plain Strength.or.next es))
  | .and es => do
    return bracketAbove level .and (Text.join " and " (← rising? plain Strength.and.next es))
  | .compare e rest => do
    let s ← expr? plain Strength.compare.next e
    return bracketAbove level .compare (s ++ String.join (← compared? plain rest))
  | .ifElse test body orElse => do
    let body ← expr? plain Strength.test.next body
    let test ← expr? plain Strength.test.next test
    let orElse ← expr? plain .test orElse
    return bracketAbove level .test (body ++ " if " ++ test ++ " else " ++ orElse)
  | .lambda ps e => do
    let ps ← params? plain ps
    let e ← expr? plain .test e
    return bracketAbove level .test
      ("lambda" ++ (if ps.isEmpty then "" else " " ++ Text.join ", " ps) ++ ": " ++ e)
  | .named x e => do
    let x ← expr? plain .atom x
    let e ← expr? plain .atom e
    return bracketAbove level .named (x ++ " := " ++ e)
  | .starred e => do return "*" ++ (← expr? plain .bitOr e)
  | .tuple es => do
    return bracketIf (es.isEmpty || Strength.tuple.rank < level.rank) (items (← exprs? plain .test es))
  | .list es => do return "[" ++ Text.join ", " (← exprs? plain .test es) ++ "]"
  | .set es => do return "\x7b" ++ Text.join ", " (← exprs? plain .test es) ++ "\x7d"
  | .dict es => do return "\x7b" ++ Text.join ", " (← entries? plain es) ++ "\x7d"
  | .listOf e cs => do
    let e ← expr? plain .test e
    return "[" ++ e ++ String.join (← clauses? plain cs) ++ "]"
  | .setOf e cs => do
    let e ← expr? plain .test e
    return "\x7b" ++ e ++ String.join (← clauses? plain cs) ++ "\x7d"
  | .generator e cs => do
    let e ← expr? plain .test e
    return "(" ++ e ++ String.join (← clauses? plain cs) ++ ")"
  | .dictOf k e cs => do
    let k ← expr? plain .test k
    let e ← expr? plain .test e
    return "\x7b" ++ k ++ ": " ++ e ++ String.join (← clauses? plain cs) ++ "\x7d"
  | .await e => do return bracketAbove level .await ("await " ++ (← expr? plain .atom e))
  | .yield e => do
    let e ← optional? plain .atom e
    return bracketAbove level .yield ("yield" ++ (e.map (" " ++ ·)).getD "")
  | .yieldFrom e => do return bracketAbove level .yield ("yield from " ++ (← expr? plain .atom e))
  | .joined parts => do
    let parts ← parts? parts
    return "f" ++ if plain then textWithFewEscapes (parts.flatMap (·.1)) else joinedText parts
  | .formatted e letter format => do
    let e ← expr? true Strength.test.next e
    if e.toList.contains '\\' then none
    else
      let letter := (letter.map fun c => "!" ++ String.ofList [c]).getD ""
      let format ← format? format
      return "\x7b" ++ (if Text.begins e "\x7b" then " " else "") ++ e ++ letter ++ format ++ "\x7d"

def exprs? (plain : Bool) (level : Strength) : List Expr → Option (List String)
  | [] => some []
  | e :: es => do
    let s ← expr? plain level e
    let ss ← exprs? plain level es
    return s :: ss

def rising? (plain : Bool) (level : Strength) : List Expr → Option (List String)
  | [] => some []
  | e :: es => do
    let s ← expr? plain level e
    let ss ← rising? plain level.next es
    return s :: ss

def optional? (plain : Bool) (level : Strength) : Option Expr → Option (Option String)
  | none => some none
  | some e => do return some (← expr? plain level e)

def keywords? (plain : Bool) : List (Option String × Expr) → Option (List String)
  | [] => some []
  | (x, e) :: ks => do
    let s ← expr? plain .test e
    let ss ← keywords? plain ks
    return ((x.map (· ++ "=")).getD "**" ++ s) :: ss

def entries? (plain : Bool) : List (Option Expr × Expr) → Option (List String)
  | [] => some []
  | (k, e) :: es => do
    let k ← optional? plain .test k
    let s ← expr? plain (if k.isSome then .test else .bitOr) e
    let ss ← entries? plain es
    return ((k.map (· ++ ": ")).getD "**" ++ s) :: ss

def compared? (plain : Bool) : List (CompareOp × Expr) → Option (List String)
  | [] => some []
  | (o, e) :: rest => do
    let s ← expr? plain Strength.compare.next e
    let ss ← compared? plain rest
    return (" " ++ CompareOp.sign o ++ " " ++ s) :: ss

def clauses? (plain : Bool) : List (Clause Expr) → Option (List String)
  | [] => some []
  | ⟨isAsync, target, source, conditions⟩ :: cs => do
    let target ← expr? plain .tuple target
    let source ← expr? plain Strength.test.next source
    let conditions ← exprs? plain Strength.test.next conditions
    let ss ← clauses? plain cs
    let opening := if isAsync then " async for " else " for "
    let conditions := String.join (conditions.map (" if " ++ ·))
    return (opening ++ target ++ " in " ++ source ++ conditions) :: ss

def param? (plain : Bool) : Param Expr → Option String
  | ⟨x, hint, default⟩ => do
    let hint ← optional? plain .test hint
    let default ← optional? plain .test default
    return x ++ (hint.map (": " ++ ·)).getD "" ++ (default.map ("=" ++ ·)).getD ""

def paramList? (plain : Bool) : List (Param Expr) → Option (List String)
  | [] => some []
  | p :: ps => do
    let s ← param? plain p
    let ss ← paramList? plain ps
    return s :: ss

def optionalParam? (plain : Bool) : Option (Param Expr) → Option (Option String)
  | none => some none
  | some p => do return some (← param? plain p)

def params? (plain : Bool) : Params Expr → Option (List String)
  | ⟨positionalOnly, regular, rest, keywordOnly, keywords⟩ => do
    let first ← paramList? plain positionalOnly
    let regular ← paramList? plain regular
    let rest ← optionalParam? plain rest
    let only ← paramList? plain keywordOnly
    let keywords ← optionalParam? plain keywords
    let slash := if first.isEmpty then [] else ["/"]
    let star := match rest with
      | some p => ["*" ++ p]
      | none => if only.isEmpty then [] else ["*"]
    return first ++ slash ++ regular ++ star ++ only ++ (keywords.map ("**" ++ ·)).toList

def parts? : List Expr → Option (List (List Nat × Bool))
  | [] => some []
  | .constant (.text _ codes) :: es => do
    let rest ← parts? es
    return (doubleBraces codes, true) :: rest
  | e :: es => do
    let s ← expr? true .test e
    let rest ← parts? es
    return (codesOf s, false) :: rest

def format? : Option (List Expr) → Option String
  | none => some ""
  | some es => do
    let parts ← parts? es
    return ":" ++ ofCodes (parts.flatMap (·.1))

end

def text? (e : Expr) : Option String := expr? false .test e

end IssuePlanner.Outline.Script.Printer
