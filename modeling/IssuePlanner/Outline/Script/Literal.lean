import IssuePlanner.Outline.Script.Expr
import IssuePlanner.Outline.Script.Token
import IssuePlanner.Text.CharName

/-! The values of number and string literals. A backslash before a character that starts no escape stands
for itself. -/

namespace IssuePlanner.Outline.Script.Literal

def digitLimit : Nat := 4300

def digitValue (c : Char) : Nat :=
  if c.isDigit then c.toNat - '0'.toNat
  else if 'a' ≤ c && c ≤ 'f' then c.toNat - 'a'.toNat + 10
  else c.toNat - 'A'.toNat + 10

def valueIn (base : Nat) (ds : List Char) : Nat := ds.foldl (fun n d => n * base + digitValue d) 0

def floatOf (cs : List Char) : Float :=
  let mantissa := cs.takeWhile fun c => c ≠ 'e' && c ≠ 'E'
  let whole := mantissa.takeWhile (· ≠ '.')
  let fraction := mantissa.drop (whole.length + 1)
  let exponent : Int := match cs.drop (mantissa.length + 1) with
    | '-' :: ds => -(valueIn 10 ds : Int)
    | '+' :: ds => valueIn 10 ds
    | ds => valueIn 10 ds
  Number.ofDecimal false (valueIn 10 (whole ++ fraction)) (exponent - fraction.length)

/-- The value of a number; nothing for a whole number with too many decimal digits. -/
def number? (cs : List Char) : Option Constant :=
  match cs with
  | '0' :: 'x' :: ds => some (.int (valueIn 16 ds))
  | '0' :: 'o' :: ds => some (.int (valueIn 8 ds))
  | '0' :: 'b' :: ds => some (.int (valueIn 2 ds))
  | _ =>
    if cs.getLast? = some 'j' then some (.imaginary (floatOf cs.dropLast))
    else if cs.all Char.isDigit then
      if digitLimit < cs.length then none else some (.int (valueIn 10 cs))
    else some (.float (floatOf cs))

def letterEscape? : Char → Option Nat
  | '\\' => some 92
  | '\'' => some 39
  | '"' => some 34
  | 'b' => some 8
  | 'f' => some 12
  | 't' => some 9
  | 'n' => some 10
  | 'r' => some 13
  | 'v' => some 11
  | 'a' => some 7
  | _ => none

def isOctalDigit (c : Char) : Bool := '0' ≤ c && c ≤ '7'

def isHexDigit (c : Char) : Bool :=
  c.isDigit || ('a' ≤ c && c ≤ 'f') || ('A' ≤ c && c ≤ 'F')

/-- Exactly `count` digits of base sixteen. -/
def hexDigits? (count : Nat) (cs : List Char) : Option Nat :=
  let ds := cs.take count
  if ds.length = count && ds.all isHexDigit then some (valueIn 16 ds) else none

/-- The code point of a named character, written in braces, and how many characters that takes. -/
def named? : List Char → Option (Nat × Nat)
  | '\x7b' :: cs =>
    let name := cs.takeWhile (· ≠ '\x7d')
    if name.isEmpty || name.length = cs.length then none
    else (Text.codeOfName name).map fun n => (n, name.length + 2)
  | _ => none

/-- The escape after a backslash: the code points it stands for, and how many characters it takes. -/
def escape? (isBytes : Bool) (cs : List Char) : Option (List Nat × Nat) :=
  match cs with
  | [] => some ([92], 0)
  | '\n' :: _ => some ([], 1)
  | c :: r =>
    match letterEscape? c with
    | some n => some ([n], 1)
    | none =>
      if isOctalDigit c then
        let ds := (cs.take 3).takeWhile isOctalDigit
        let n := valueIn 8 ds
        some ([if isBytes then n % 256 else n], ds.length)
      else if c = 'x' then (hexDigits? 2 r).map fun n => ([n], 3)
      else if isBytes then some ([92, c.toNat], 1)
      else if c = 'u' then (hexDigits? 4 r).map fun n => ([n], 5)
      else if c = 'U' then
        (hexDigits? 8 r).bind fun n => if n ≤ 0x10ffff then some ([n], 9) else none
      else if c = 'N' then (named? r).map fun (n, k) => ([n], k + 1)
      else some ([92, c.toNat], 1)

/-- The code points of a text with escapes; `skip` counts the characters that an escape has used. -/
def unescape? (isBytes : Bool) (skip : Nat) (out : List Nat) : List Char → Option (List Nat)
  | [] => some out.reverse
  | c :: r =>
    match skip with
    | n + 1 => unescape? isBytes n out r
    | 0 =>
      if c = '\\' then
        match escape? isBytes r with
        | some (codes, n) => unescape? isBytes n (codes.reverse ++ out) r
        | none => none
      else unescape? isBytes 0 (c.toNat :: out) r

def text? (raw : Bool) (cs : List Char) : Option (List Nat) :=
  if raw then some (cs.map Char.toNat) else unescape? false 0 [] cs

def bytes? (raw : Bool) (cs : List Char) : Option (List Nat) :=
  if cs.any fun c => 128 ≤ c.toNat then none
  else if raw then some (cs.map Char.toNat)
  else unescape? true 0 [] cs

end IssuePlanner.Outline.Script.Literal
